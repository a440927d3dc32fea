import SipNemo.Lib.EventQueue
import SipNemo.Lib.Runs
import SipNemo.Net.Packet

/-!
# Neighbor discovery

`NDAgent` of `nd.cc`: the list of prefixes a host has heard of, each with a timer, and the timers
for its advertisements, solicitations and replies.  The timers of several agents share one
scheduler, so each carries the name of its agent.

The id of a prefix timer is the prefix, in one space with the ids of the other two kinds: a prefix
`-1` or `-2` times out as the advertisement or the solicitation timer.  Random numbers come with
the step that draws them.  Sizes of packets and the text of `dump-table` are left out.
-/

namespace SipNemo.Nd

open EventQueue RequestTable

/-- `IPv6_TIMER_RA`. -/
def timerRA : Addr := -1

/-- `IPv6_TIMER_RS`. -/
def timerRS : Addr := -2

/-- `IP_BROADCAST`. -/
def ipBroadcast : Addr := 0xFFFFFFFF

/-- `hdr_rtads`, less the fields nothing writes. -/
structure RtAds where
  routerLifetime : ℚ
  validLifetime : BitVec 32
  preferredLifetime : BitVec 32
  prefix_ : Addr
  advertisementInterval : BitVec 32
  deriving DecidableEq, Repr

/-- `Entry`; `id` tells the objects apart, whose timers are theirs alone. -/
structure Entry where
  id : ℕ
  prefix_ : Addr
  time : ℚ
  lftm : ℚ
  deriving DecidableEq, Repr

/-- `expire()`. -/
def Entry.expire (e : Entry) : ℚ := e.time + e.lftm

/-- The timers of an agent: `RATimer`, `RSTimer`, the `PrefixTimer` of an entry and an
`RSreplyTimer`. -/
inductive NdTimer
  | ra
  | rs
  | ofPrefix (id : ℕ) (prefix_ : Addr)
  | reply (id : ℕ) (daddr : Addr)
  deriving DecidableEq, Repr

/-- The attributes that commands and scripts set. -/
structure NdSettings where
  router : Bool
  mrBs : Bool
  useAdvInterval : Bool
  broadcast : Bool
  rtrlftm : ℚ
  prefixLifetime : BitVec 32
  minRtrAdvInterval : ℚ
  maxRtrAdvInterval : ℚ
  minDelayBetweenRA : ℚ
  maxRADelay : ℚ
  rsTimeout : ℚ
  maxRtrSolicitation : ℤ
  raDaddrs : List Addr
  rsDaddrs : List Addr
  nodeAddress : Addr
  iMngmnt : Bool

/-- `NDAgent`. -/
structure NDAgent where
  addr : Addr
  node : NodeId
  settings : NdSettings
  nlist : List Entry := []
  nextEntry : ℕ := 0
  nbRtrSol : ℤ := 0
  lastRATime : ℚ := 0
  nextRATime : ℚ := -1
  rsList : List ℕ := []
  nextReply : ℕ := 0

/-- `ND_NEW_PREFIX`, `ND_PREFIX_EXPIRED` and `ND_MR`. -/
inductive NdEvent
  | newPrefix | prefixExpired | mr
  deriving DecidableEq, Repr

/-- What an agent does: it sends advertisements and solicitations, and tells the interface manager
of prefixes. -/
inductive NdOutput
  | ads (daddr saddr : Addr) (rh : RtAds)
  | rsol (daddr saddr : Addr)
  | ndEvent (type : NdEvent) (prefix_ : Addr) (interface : NodeId) (bsAddr : Option Addr)
  | setMrBsPrefix (prefix_ : Addr) (interface : NodeId) (bsAddr : Addr) (lifetime : ℚ)
  deriving DecidableEq, Repr

/-- The random numbers of a step. -/
structure Rand where
  uniform : ℚ
  random : ℕ → ℕ

/-- `Random::uniform(a, b)`. -/
def Rand.between (r : Rand) (a b : ℚ) : ℚ := a + r.uniform * (b - a)

/-- `(uint32_t) x`. -/
def toUint32 (x : ℚ) : BitVec 32 := BitVec.ofNat 32 ⌊x⌋.toNat

/-- A timer operation that calls `abort()` when it fails. -/
def orAbort {α : Type} : Option α → Act α
  | some a => .ok a
  | none => .error .exit

theorem orAbort_eq_ok {α : Type} {o : Option α} {a : α} : orAbort o = .ok a ↔ o = some a := by
  cases o <;> simp [orAbort]

theorem orAbort_ne_error {α : Type} {err : Abort} (herr : err ≠ .exit) (o : Option α) :
    orAbort o ≠ .error err := by
  cases o with
  | none => exact fun h => herr (Except.error.inj h).symm
  | some _ => exact nofun

/-- A scheduler with the timers of the agents named in `ι`. -/
abbrev NdScheduler (ι : Type) := Scheduler ℚ (ι × NdTimer)

/-- An agent and the scheduler. -/
abbrev NdState (ι : Type) := NDAgent × NdScheduler ι

namespace NDAgent

variable {ι : Type} [DecidableEq ι] (me : ι) (a : NDAgent) (s : NdScheduler ι)

/-! ### The list of neighbors -/

/-- `lookup_entry`. -/
def lookupEntry (prefix_ : Addr) : Option Entry := a.nlist.find? fun e => e.prefix_ = prefix_

/-- `insert_entry` of a new entry. -/
def insertEntry (prefix_ : Addr) (time lifetime : ℚ) : NDAgent :=
  { a with
    nlist := ⟨a.nextEntry, prefix_, time, lifetime⟩ :: a.nlist
    nextEntry := a.nextEntry + 1 }

/-- `remove_entry`. -/
def removeEntry (e : Entry) : NDAgent := { a with nlist := a.nlist.erase e }

section

variable (p : Addr) (t l : ℚ) (e : Entry)

@[simp] theorem insertEntry_nlist :
    (a.insertEntry p t l).nlist = ⟨a.nextEntry, p, t, l⟩ :: a.nlist := rfl
@[simp] theorem insertEntry_settings : (a.insertEntry p t l).settings = a.settings := rfl
@[simp] theorem insertEntry_node : (a.insertEntry p t l).node = a.node := rfl
@[simp] theorem removeEntry_nlist : (a.removeEntry e).nlist = a.nlist.erase e := rfl
@[simp] theorem removeEntry_settings : (a.removeEntry e).settings = a.settings := rfl
@[simp] theorem removeEntry_node : (a.removeEntry e).node = a.node := rfl

end

/-- `add_prefix`. -/
def addPrefix (prefix_ : Addr) (lifetime : ℚ) : Act (NdState ι) :=
  match a.lookupEntry prefix_ with
  | some _ => .error .assertion
  | none =>
    .ok (a.insertEntry prefix_ s.clock lifetime,
      s.resched (me, .ofPrefix a.nextEntry prefix_) lifetime)

/-- `update_entry` of the entry that the lookup has found. -/
def updateEntry (e : Entry) (lifetime : ℚ) : NdState ι :=
  ({ a with
      nlist := a.nlist.map fun x =>
        if x = e then { e with time := s.clock, lftm := lifetime } else x },
    s.resched (me, .ofPrefix e.id e.prefix_) lifetime)

/-! ### Sending -/

/-- `get_mr_bs_entry_random`. -/
def getMrBsEntryRandom (random : ℕ) : Option Entry := a.nlist[random % a.nlist.length]?

/-- `send_ads`. -/
def sendAds (daddr : Addr) (random : ℕ) : List NdOutput :=
  let interval := toUint32 (a.settings.maxRtrAdvInterval * 1000)
  if a.settings.mrBs then
    match a.getMrBsEntryRandom random with
    | none => []
    | some bu =>
      [.ads daddr a.addr
        ⟨a.settings.rtrlftm, toUint32 bu.lftm, toUint32 bu.lftm, bu.prefix_, interval⟩]
  else
    [.ads daddr a.addr
      ⟨a.settings.rtrlftm, a.settings.prefixLifetime, a.settings.prefixLifetime, a.addr, interval⟩]

/-- `send_rs`: on the way the agent takes the address of its node. -/
def sendRs : NdState ι × List NdOutput :=
  if a.settings.router then ((a, s), [])
  else if s.status (me, .rs) = .pending then ((a, s), [])
  else
    let daddrs := if a.settings.broadcast then [ipBroadcast] else a.settings.rsDaddrs
    let addr := if daddrs = [] then a.addr else a.settings.nodeAddress
    (({ a with addr := addr }, s.resched (me, .rs) a.settings.rsTimeout),
      daddrs.map fun d => .rsol d addr)

/-! ### The timers -/

/-- The advertisements of the RA timer. -/
def advertise (rand : Rand) : List NdOutput :=
  if a.settings.broadcast then a.sendAds ipBroadcast (rand.random 0)
  else a.settings.raDaddrs.zipIdx.flatMap fun d => a.sendAds d.1 (rand.random d.2)

/-- The next advertisement, also the command `start-ra` of a router. -/
def scheduleRa (rand : Rand) : NdState ι :=
  let delay := rand.between a.settings.minRtrAdvInterval a.settings.maxRtrAdvInterval
  ({ a with nextRATime := delay + s.clock }, s.resched (me, .ra) delay)

/-- `timeout`. -/
def timeout (value : Addr) (rand : Rand) : Act (NdState ι × List NdOutput) :=
  if value = timerRA then
    let (a, s) := scheduleRa me { a with lastRATime := s.clock } s rand
    .ok ((a, s), a.advertise rand)
  else if value = timerRS then
    let a := { a with nbRtrSol := a.nbRtrSol + 1 }
    if a.nbRtrSol < a.settings.maxRtrSolicitation then .ok (sendRs me a s)
    else .ok (({ a with nbRtrSol := 0 }, s), [])
  else do
    let n ← deref (a.lookupEntry value)
    pure ((a.removeEntry n, s),
      if a.settings.iMngmnt then [.ndEvent .prefixExpired value a.node none] else [])

/-- `process_rsreply`. -/
def processRsreply (id : ℕ) (daddr : Addr) (rand : Rand) : NdState ι × List NdOutput :=
  (({ a with rsList := a.rsList.erase id }, s),
    a.sendAds (if a.settings.broadcast then ipBroadcast else daddr) (rand.random 0))

/-- `expire` of a timer. -/
def expire (x : NdTimer) (rand : Rand) : Act (NdState ι × List NdOutput) :=
  match x with
  | .ra => timeout me a s timerRA rand
  | .rs => timeout me a s timerRS rand
  | .ofPrefix _ prefix_ => timeout me a s prefix_ rand
  | .reply id daddr => .ok (processRsreply a s id daddr rand)

/-! ### Receiving -/

/-- The lifetime an advertisement gives its prefix: three intervals, in seconds, or that of the
router. -/
def lifetimeOf (rh : RtAds) : ℚ :=
  if a.settings.useAdvInterval then rh.advertisementInterval.toNat * (3 / 1000)
  else rh.routerLifetime

/-- What the interface manager is told of a new prefix. -/
def announceNew (rh : RtAds) (saddr : Addr) : List NdOutput :=
  if a.settings.iMngmnt then
    if a.settings.mrBs then [.setMrBsPrefix rh.prefix_ a.node saddr (a.lifetimeOf rh)]
    else [.ndEvent .newPrefix rh.prefix_ a.node (some saddr)]
  else []

/-- `recv_ads`. -/
def recvAds (rh : RtAds) (saddr : Addr) : Act (NdState ι × List NdOutput) := do
  let s ← (if s.status (me, .rs) ≠ .idle then orAbort (s.cancel (me, .rs)) else pure s)
  match a.lookupEntry rh.prefix_ with
  | some node => pure (updateEntry me a s node (a.lifetimeOf rh), [])
  | none => do
    let state ← addPrefix me a s rh.prefix_ (a.lifetimeOf rh)
    pure (state, a.announceNew rh saddr)

/-- `recv_ads_mr`. -/
def recvAdsMr (rh : RtAds) : List NdOutput :=
  if a.settings.iMngmnt then [.ndEvent .mr rh.prefix_ a.node none] else []

/-- The delay of the reply to a solicitation, if there is one. -/
def replyDelay (rsDelay : ℚ) : Option ℚ :=
  let c := a.settings.minDelayBetweenRA
  if a.nextRATime ≠ -1 ∧ a.nextRATime - s.clock < rsDelay then none
  else if s.clock + rsDelay - a.lastRATime < c then
    if a.nextRATime ≠ -1 ∧ a.nextRATime > s.clock ∧ a.nextRATime - s.clock < rsDelay + c then none
    else some (rsDelay + a.lastRATime + c - s.clock)
  else some rsDelay

/-- `recv_rs`. -/
def recvRs (saddr : Addr) (rand : Rand) : Act (NdState ι × List NdOutput) :=
  match a.replyDelay s (rand.between 0 a.settings.maxRADelay) with
  | none => .ok ((a, s), [])
  | some delay => do
    let s ← orAbort (s.sched (me, .reply a.nextReply saddr) delay)
    pure (({ a with rsList := a.nextReply :: a.rsList, nextReply := a.nextReply + 1 }, s), [])

/-- What happens to an agent at the present time, its timers apart: packets, commands and changes
of its attributes. -/
inductive NdStep
  | rads (rh : RtAds) (saddr : Addr)
  | rsol (saddr : Addr) (rand : Rand)
  | startRa (rand : Rand)
  | stopRa
  | sendRs
  | sendAds (rand : Rand)
  | set (settings : NdSettings)

/-- One of them; hosts take advertisements, routers solicitations. -/
def perform (i : NdStep) : Act (NdState ι × List NdOutput) :=
  match i with
  | .rads rh saddr =>
    if a.settings.router then .ok ((a, s), a.recvAdsMr rh) else recvAds me a s rh saddr
  | .rsol saddr rand => if a.settings.router then recvRs me a s saddr rand else .ok ((a, s), [])
  | .startRa rand =>
    .ok (if a.settings.router then scheduleRa me a s rand else (a, s), [])
  | .stopRa =>
    if a.settings.router then do
      let s ← orAbort (s.cancel (me, .ra))
      pure (({ a with nextRATime := -1 }, s), [])
    else .ok ((a, s), [])
  | .sendRs => .ok (NDAgent.sendRs me a s)
  | .sendAds rand => .ok ((a, s), a.sendAds ipBroadcast (rand.random 0))
  | .set settings => .ok (({ a with settings := settings }, s), [])

/-- The next event of the scheduler, when it is of a timer of this agent. -/
def handle (x : NdTimer) (rand : Rand) : Act (NdState ι × List NdOutput) := do
  let ((a, s), out) ← expire me a s x rand
  pure ((a, s.finish (me, x)), out)

end NDAgent

end SipNemo.Nd
