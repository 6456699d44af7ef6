import AtScaleDebug.Lib.PollLoop
import AtScaleDebug.Target.SppDevices

/-!
The three loops that work off the events of the target: all events of the polled
descriptors before the network is looked at, and the interrupts of the SPP devices while
a command waits for a handshake or for the data of an automatic command. Each polls and
hands every descriptor to `target_event`, which takes a descriptor that only reports an
error or a hang-up for one without an event. An event leaves its descriptor when it is
read, and two of these reads may fail without the loop noticing it.
-/

namespace AtScaleDebug

open PollLoop

section Loops

/-- The outcomes of a call of `target_event`: the read that takes the event off its
descriptor, which is `GET_EVENT_DATA`, the one of a line event or the one of a sysfs
value; what the handlers of the D-Bus and of the pin make of it; and the writes it
leads to. -/
structure EventCall where
  read : Bool
  dbus : Status × AsdEvent
  handler : Option (Status × AsdEvent)
  io : BpkIo

/-- The descriptors as the kernel sees them: what `GET_EVENT_DATA` would store for each
pending event, which nothing else looks at, the error conditions, the pins with the
sysfs driver, and the outcomes of the call for a descriptor in an iteration. -/
structure PollEnv where
  pending : Descriptor → List (List UInt8)
  failed : Descriptor → Bool
  sysfs : TargetPin → Bool
  calls : Nat → Descriptor → EventCall

/-- A handle of -1 is ignored by `poll`. -/
def PollEnv.source (env : PollEnv) : Descriptor → Source Descriptor (List UInt8)
  | .closed => ⟨.closed, [], false⟩
  | fd => ⟨fd, env.pending fd, env.failed fd⟩

/-- `target_clear_gpio_event` ignores a failed read of a sysfs value. -/
def PollEnv.cleared (env : PollEnv) (k : Nat) : Descriptor → Status
  | .pin pin => if env.sysfs pin || (env.calls k (.pin pin)).read then .ok else .err
  | _ => .ok

/-- The pins whose handler reads the value once more. -/
def TargetPin.handlerReads : TargetPin → Bool
  | .prdy | .xdpPresent => false
  | .pltrst | .cpuPwrgd | .pwrgd2 | .pwrgd3 => true

/-- Whether the call takes the event off, unless it leaves the loop: the D-Bus handler
succeeds when the bus has nothing left, and the handler of a sysfs pin when it has read
the value. The polled devices are those that `target_event` looks for. -/
def PollEnv.taken (env : PollEnv) (k : Nat) (fd : Descriptor) : Bool :=
  let call := env.calls k fd
  match fd with
  | .device _ => call.read
  | .pin pin =>
      call.read || (env.sysfs pin && pin.handlerReads && call.handler.any fun r => r.1 = .ok)
  | .dbus | .closed => true

/-- What the loops carry from event to event: the event buffer and whether a handshake
ends the loop only matter while a command waits. -/
structure DrainState where
  handler : SppHandler
  bulk : SppBulk
  buffer : List UInt8
  exits : Bool

/-- What `target_event` makes of a descriptor. -/
def DrainState.targetEvent (s : DrainState) (t : TargetHandler) (env : PollEnv) (k : Nat)
    (fd : Descriptor) (readable : Bool) : Status × AsdEvent :=
  let call := env.calls k fd
  AtScaleDebug.targetEvent t s.handler ⟨call.dbus, env.cleared k fd, call.handler⟩
    ⟨fd, readable, false⟩

def EventCall.polled (call : EventCall) (slot : Fin maxSppBusDevices) (data : List UInt8) :
    PolledIbi :=
  ⟨slot, if call.read then some data else none, call.io⟩

/-- `asd_msg_event`. The status that an XDP event sets is overwritten by that of its pin
event. -/
def asdMsgEvent (t : TargetHandler) (env : PollEnv) (enabled : Bool) (k : Nat) (s : DrainState)
    (fd : Descriptor) (event : Option (List UInt8)) : DrainState ⊕ DrainState × Status :=
  let call := env.calls k fd
  match s.targetEvent t env k fd event.isSome, event with
  | (.ok, .bpk slot), some data =>
      let p := call.polled slot data
      let handler := i3cIbiHandler s.handler (p.device, p.kind)
      match sendBpkEvent enabled s.bulk (p.event clearEventBuffer) p.io with
      | (bulk, .ok) => .inl { s with handler, bulk }
      | (bulk, status) => .inr ({ s with handler, bulk }, status)
  | (.ok, .pin _), some _ => if call.io.written then .inl s else .inr (s, .err)
  | (.ok, _), _ => .inl s
  | (status, _), _ => .inr (s, status)

/-- The body of `asd_msg_check_spp_ibi` and of `asd_msg_check_spp_ibi_data`, which differ
in what they wait for. -/
def asdMsgCheckEvent (t : TargetHandler) (env : PollEnv) (enabled : Bool)
    (ready : SppHandler → Bool) (k : Nat) (s : DrainState) (fd : Descriptor)
    (event : Option (List UInt8)) : DrainState ⊕ DrainState × Status :=
  match s.targetEvent t env k fd event.isSome, event with
  | (.ok, .bpk slot), some data =>
      let p := (env.calls k fd).polled slot data
      let handler := i3cIbiHandler s.handler (p.device, p.kind)
      let exits := s.exits && !checkSppPrdyEvent (p.event s.buffer)
      match sendBpkEvent enabled s.bulk (p.event s.buffer) p.io with
      | (bulk, .ok) =>
          if ready handler && exits then .inr (⟨handler, bulk, p.fill s.buffer, exits⟩, .ok)
          else .inl ⟨handler, bulk, p.fill s.buffer, exits⟩
      | (bulk, status) => .inr (⟨handler, bulk, p.fill s.buffer, exits⟩, status)
  | (.ok, _), _ => .inl s
  | (status, _), _ => .inr (s, status)

inductive DrainLoop where
  | processAllPinEvents
  | checkSppIbi (address : Fin maxSppBusDevices)
  | checkSppIbiData (address : Fin maxSppBusDevices)

/-- The descriptors are looked up once, before the loop. -/
def DrainLoop.fds (t : TargetHandler) (h : SppHandler) : DrainLoop → Option (List Descriptor)
  | .processAllPinEvents => targetGetFds t h
  | .checkSppIbi _ | .checkSppIbiData _ => targetGetSppFds t h

def DrainLoop.handle (t : TargetHandler) (env : PollEnv) (enabled : Bool) : DrainLoop → Nat →
    DrainState → Descriptor → Option (List UInt8) → DrainState ⊕ DrainState × Status
  | .processAllPinEvents => asdMsgEvent t env enabled
  | .checkSppIbi address => asdMsgCheckEvent t env enabled fun h => !h.thresholdStatus address
  | .checkSppIbiData address =>
      asdMsgCheckEvent t env enabled fun h => h.bulkAutocmdCount address = 0

/-- A poll that times out ends the loop. -/
def timedOut (s : DrainState) : DrainState × Status := (s, .ok)

/-- The loop for so many iterations. Without descriptors it is not entered. -/
def DrainLoop.run (loop : DrainLoop) (t : TargetHandler) (enabled : Bool) (env : PollEnv)
    (s : DrainState) (n : Nat) : Option (DrainState × Status) :=
  match loop.fds t s.handler with
  | none => some (s, .err)
  | some fds =>
      pollLoop (loop.handle t env enabled) env.taken timedOut n 0 s (fds.map env.source)

/-- Where the loop stands before the given iteration. -/
def DrainLoop.before (loop : DrainLoop) (t : TargetHandler) (enabled : Bool) (env : PollEnv)
    (s : DrainState) (k : Nat) : Option (DrainState × List (Source Descriptor (List UInt8))) :=
  match loop.fds t s.handler with
  | none => none
  | some fds =>
      PollLoop.before (loop.handle t env enabled) env.taken timedOut k 0 s (fds.map env.source)

end Loops

section Refinement
variable {t : TargetHandler} {env : PollEnv} {enabled : Bool} {ready : SppHandler → Bool} {k : Nat}

/-- `drain` gets from one state to the other over the polled descriptors. -/
def Drains (enabled : Bool) (ready : SppHandler → Bool) (s u : DrainState)
    (polled : List Polled) : Prop :=
  let drained := drain enabled ready s.exits s.buffer s.handler s.bulk polled
  drained.2 = u.bulk ∧ drained.1.foldl i3cIbiHandler s.handler = u.handler

theorem asdMsgCheckEvent_stays {s u v : DrainState} {fd : Descriptor}
    {event : Option (List UInt8)}
    (h : asdMsgCheckEvent t env enabled ready k s fd event = .inl u)
    {polled : List Polled} (hrest : Drains enabled ready u v polled) :
    ∃ p, Drains enabled ready s v (p :: polled) := by
  unfold asdMsgCheckEvent at h
  split at h
  · next slot data _ =>
      dsimp only at h
      split at h
      · next bulk hsend =>
          split at h
          · cases h
          · next hgoes =>
              cases h
              refine ⟨.ibi ((env.calls k fd).polled slot data), ?_⟩
              obtain ⟨hbulk, hhandler⟩ := hrest
              simp only [Drains, drain, hsend, if_neg hgoes]
              exact ⟨hbulk, hhandler⟩
      · cases h
  · cases h
    exact ⟨.quiet, hrest⟩
  · cases h

theorem asdMsgCheckEvent_leaves {s u : DrainState} {fd : Descriptor}
    {event : Option (List UInt8)} {status : Status}
    (h : asdMsgCheckEvent t env enabled ready k s fd event = .inr (u, status)) :
    ∃ p, Drains enabled ready s u [p] := by
  unfold asdMsgCheckEvent at h
  split at h
  · next slot data _ =>
      refine ⟨.ibi ((env.calls k fd).polled slot data), ?_⟩
      dsimp only at h
      split at h
      · next bulk hsend =>
          split at h
          · next hdone =>
              cases h
              simp only [Drains, drain, hsend, if_pos hdone]
              exact ⟨trivial, rfl⟩
          · cases h
      · next bulk result hfailed hsend =>
          cases h
          simp only [Drains, drain, hsend]
          exact ⟨trivial, rfl⟩
  · cases h
  · cases h
    exact ⟨.failed, rfl, rfl⟩

/-- When a loop that waits for an SPP device ends, its effect is that of `drain` over what
its polls found. -/
theorem checkLoop_drains {n : Nat} {s u : DrainState} {status : Status}
    {sources : List (Source Descriptor (List UInt8))}
    (h : pollLoop (asdMsgCheckEvent t env enabled ready) env.taken timedOut n k s sources =
      some (u, status)) :
    ∃ polled, Drains enabled ready s u polled := by
  refine pollLoop_rule (P := fun s result => ∃ polled, Drains enabled ready s result.1 polled)
    (fun s => ⟨[], rfl, rfl⟩) (fun k s fd event u result hstays hrest => ?_)
    (fun k s fd event result hleaves => ?_) h
  · obtain ⟨polled, hrest⟩ := hrest
    obtain ⟨p, hdrains⟩ := asdMsgCheckEvent_stays hstays hrest
    exact ⟨p :: polled, hdrains⟩
  · obtain ⟨p, hdrains⟩ := asdMsgCheckEvent_leaves hleaves
    exact ⟨[p], hdrains⟩

end Refinement

section Termination

/-- The first device is open and waits for its handshake and for data. -/
def stuckState : DrainState :=
  ⟨{ awaitingHandler with bulkAutocmdCount := fun _ => 1 }, .initial, clearEventBuffer, true⟩

def stuckTarget : TargetHandler := ⟨true, false, fun _ => false, false, false, true⟩

/-- No read succeeds. -/
def unreadable (pending : List (List UInt8)) (failed : Bool) : PollEnv where
  pending _ := pending
  failed _ := failed
  sysfs _ := false
  calls _ _ := ⟨false, (.ok, .none), none, true, true⟩

/-- Only the events that were sent are different. -/
def DrainState.Stuck (s : DrainState) : Prop :=
  s.handler = stuckState.handler ∧ s.buffer = stuckState.buffer ∧ s.bulk.bufferCount = 0

def loopsOfFirstDevice : List DrainLoop :=
  [.processAllPinEvents, .checkSppIbi firstDevice, .checkSppIbiData firstDevice]

variable {pending : List (List UInt8)} {failed : Bool} {k : Nat}

/-- Nothing that the device reports gets any of the loops further. -/
theorem handle_stuck {loop : DrainLoop} (hloop : loop ∈ loopsOfFirstDevice) {s : DrainState}
    (h : s.Stuck) (event : Option (List UInt8)) :
    ∃ u : DrainState, u.Stuck ∧ loop.handle stuckTarget (unreadable pending failed) true k s
      (.device firstDevice) event = .inl u := by
  obtain ⟨handler, bulk, buffer, exits⟩ := s
  obtain ⟨hhandler, hbuffer, hcount⟩ := h
  dsimp only at hhandler hbuffer hcount
  subst hhandler hbuffer
  simp only [loopsOfFirstDevice, List.mem_cons, List.not_mem_nil, or_false] at hloop
  have htarget (readable : Bool) :
      DrainState.targetEvent ⟨stuckState.handler, bulk, stuckState.buffer, exits⟩ stuckTarget
        (unreadable pending failed) k (.device firstDevice) readable =
          if readable then (.ok, .bpk firstDevice) else (.ok, .none) := by
    cases readable <;> rfl
  cases event with
  | none =>
      refine ⟨⟨stuckState.handler, bulk, stuckState.buffer, exits⟩, ⟨rfl, rfl, hcount⟩, ?_⟩
      rcases hloop with rfl | rfl | rfl <;> rfl
  | some data =>
      -- the event goes out with what the buffer holds, and nothing else changes
      let p : PolledIbi := ⟨firstDevice, none, ⟨true, true⟩⟩
      have hpolled :
          ((unreadable pending failed).calls k (.device firstDevice)).polled firstDevice data = p :=
        rfl
      have hsend (e : BpkEvent) :
          sendBpkEvent true bulk e p.io = (bulk.record (.alone e), .ok) := by
        rw [sendBpkEvent, if_neg]
        · rfl
        · intro hstores
          exact absurd hcount (Nat.ne_of_gt hstores.2.2)
      have hprdy : checkSppPrdyEvent (p.event stuckState.buffer) = false := rfl
      refine ⟨⟨stuckState.handler, bulk.record (.alone (p.event clearEventBuffer)),
        stuckState.buffer, exits⟩, ⟨rfl, rfl, hcount⟩, ?_⟩
      rcases hloop with rfl | rfl | rfl
      · simp only [DrainLoop.handle, asdMsgEvent, Option.isSome_some, htarget, if_true, hpolled,
          hsend]
        rfl
      all_goals
        simp only [DrainLoop.handle, asdMsgCheckEvent, Option.isSome_some, htarget, if_true,
          hpolled, hsend, hprdy, Bool.not_false, Bool.and_true]
        rfl

end Termination

end AtScaleDebug
