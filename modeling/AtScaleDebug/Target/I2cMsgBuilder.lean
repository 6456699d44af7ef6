import AtScaleDebug.Lib.Ledger
import AtScaleDebug.Target.I2cEncoding

/-!
The queue of an I2C message in memory: the builder, the argument of the transfer `ioctl`,
the array of messages, which grows by one message at a time, and a buffer for each message.
Every allocation may fail. The array is allocated before the buffer of its first message,
and when this one fails it stays behind without a message. A later message would allocate
the array once more; `process_i2c_messages` ends at the first failure instead.
-/

namespace AtScaleDebug

open Ledger

/-- A block of memory, by the number of the allocation that returned it. -/
abbrev Block := Nat

/-- `i2c_rdwr_ioctl_data`, with the array it points to and the messages up to `nmsgs`, each
with its buffer. -/
structure MsgSet where
  block : Block
  msgs : Option Block
  queue : List (DriverI2cMsg × Block)

def MsgSet.held (set : MsgSet) : Multiset Block :=
  {set.block} + (set.msgs.toList : Multiset Block) + (set.queue.map Prod.snd : List Block)

/-- The builder with the number of allocations so far. -/
structure I2cMsgBuilder where
  block : Block
  msgSet : Option MsgSet
  allocations : Nat

/-- A call of the builder with what its allocations return. -/
inductive BuilderCall where
  | init (allocated : Bool)
  | add (msg : AsdI2cMsg) (array buffer : Bool)
  | reset
  | deinit

namespace I2cMsgBuilder

section Code
variable (b : I2cMsgBuilder)

/-- `I2CMsgBuilder`, as the first allocation. -/
def new : I2cMsgBuilder := ⟨0, none, 1⟩

def i2cMsgInitialize (allocated : Bool) : I2cMsgBuilder × List (Event Block) × Status :=
  if allocated then
    ({ b with msgSet := some ⟨b.allocations, none, []⟩, allocations := b.allocations + 1 },
      [.acquire b.allocations], .ok)
  else ({ b with msgSet := none }, [], .err)

/-- `copy_asd_to_i2c` behind the messages that are there. -/
def copyTo (set : MsgSet) (msg : AsdI2cMsg) (buffer : Bool) (events : List (Event Block)) :
    I2cMsgBuilder × List (Event Block) × Status :=
  if buffer then
    ({ b with
      msgSet := some { set with queue := set.queue ++ [(copyAsdToI2c msg, b.allocations)] }
      allocations := b.allocations + 1 }, events ++ [.acquire b.allocations], .ok)
  else ({ b with msgSet := some set }, events, .err)

/-- The first message gets a new array, for every other one the array moves. -/
def i2cMsgAdd (msg : AsdI2cMsg) (array buffer : Bool) :
    I2cMsgBuilder × List (Event Block) × Status :=
  match b.msgSet with
  | none => (b, [], .err)
  | some set =>
      let next := { b with allocations := b.allocations + 1 }
      let grown := { set with msgs := some b.allocations }
      match set.queue with
      | [] =>
          if array then next.copyTo grown msg buffer [.acquire b.allocations]
          else ({ b with msgSet := some { set with msgs := none } }, [], .err)
      | _ :: _ =>
          if array then
            next.copyTo grown msg buffer
              (set.msgs.toList.map Event.release ++ [.acquire b.allocations])
          else (b, [], .err)

def i2cMsgReset : I2cMsgBuilder × List (Event Block) × Status :=
  match b.msgSet with
  | none => (b, [], .err)
  | some set =>
      ({ b with msgSet := some { set with msgs := none, queue := [] } },
        set.queue.map (fun entry => .release entry.2) ++ set.msgs.toList.map Event.release, .ok)

/-- What the reset returns is not looked at. -/
def i2cMsgDeinit : I2cMsgBuilder × List (Event Block) × Status :=
  match b.msgSet with
  | none => (b, [], .ok)
  | some set => ({ b with msgSet := none }, b.i2cMsgReset.2.1 ++ [.release set.block], .ok)

def call : BuilderCall → I2cMsgBuilder × List (Event Block) × Status
  | .init allocated => b.i2cMsgInitialize allocated
  | .add msg array buffer => b.i2cMsgAdd msg array buffer
  | .reset => b.i2cMsgReset
  | .deinit => b.i2cMsgDeinit

/-- What is queued. -/
def messages : List DriverI2cMsg := b.msgSet.elim [] fun set => set.queue.map Prod.fst

end Code

section Account

def callStep (b : I2cMsgBuilder) (c : BuilderCall) : I2cMsgBuilder := (b.call c).1

def callEvents (b : I2cMsgBuilder) (c : BuilderCall) : List (Event Block) := (b.call c).2.1

/-- The builder is used by a list of calls, reset, and freed. -/
def lifeEvents (calls : List BuilderCall) : List (Event Block) :=
  [.acquire new.block] ++ emitted callStep callEvents new calls ++
    (Machine.run callStep new calls).i2cMsgDeinit.2.1 ++ [.release new.block]

/-- What hangs on the builder. -/
def held (b : I2cMsgBuilder) : Multiset Block := b.msgSet.elim 0 MsgSet.held

/-- What a call drops: a message set that is initialised once more, and an array that is
allocated once more. -/
def leak (b : I2cMsgBuilder) : BuilderCall → Multiset Block
  | .init _ => b.held
  | .add _ _ _ =>
      b.msgSet.elim 0 fun set => if set.queue = [] then (set.msgs.toList : Multiset Block) else 0
  | .reset | .deinit => 0

end Account

section Calls
variable {b : I2cMsgBuilder}

theorem held_of_some {set : MsgSet} (hset : b.msgSet = some set) : b.held = set.held := by
  rw [I2cMsgBuilder.held, hset]
  rfl

theorem settle_copyTo {set : MsgSet} {held other : Multiset Block} {events : List (Event Block)}
    (h : settle held events = some (set.held + other)) (msg : AsdI2cMsg) (buffer : Bool) :
    settle held (b.copyTo set msg buffer events).2.1 =
      some ((b.copyTo set msg buffer events).1.held + other) := by
  rw [copyTo]
  cases buffer with
  | false => exact h
  | true =>
      apply settle_trans h
      simp only [settle_acquire, settle_nil, if_true, I2cMsgBuilder.held, Option.elim_some,
        MsgSet.held, List.map_append, List.map_cons, List.map_nil, ← Multiset.coe_add,
        Multiset.coe_singleton, ← Multiset.singleton_add]
      congr 1
      ac_rfl

theorem settle_i2cMsgAdd (msg : AsdI2cMsg) (array buffer : Bool) :
    settle b.held (b.i2cMsgAdd msg array buffer).2.1 =
      some ((b.i2cMsgAdd msg array buffer).1.held + b.leak (.add msg array buffer)) := by
  cases hset : b.msgSet with
  | none => simp only [i2cMsgAdd, leak, hset, settle_nil, Option.elim_none, add_zero]
  | some set =>
      cases hqueue : set.queue with
      | nil =>
          simp only [i2cMsgAdd, leak, hset, hqueue, Option.elim_some, if_true]
          rw [held_of_some hset]
          cases array with
          | true =>
              apply settle_copyTo
              simp only [settle_acquire, settle_nil, MsgSet.held, hqueue, Option.toList_some,
                Multiset.coe_singleton, ← Multiset.singleton_add]
              congr 1
              ac_rfl
          | false =>
              simp only [settle_nil, MsgSet.held, I2cMsgBuilder.held, hqueue, Option.elim_some,
                Option.toList_none, Bool.false_eq_true, if_false, Multiset.coe_nil]
              congr 1
              ac_rfl
      | cons entry queue =>
          simp only [i2cMsgAdd, leak, hset, hqueue, Option.elim_some, List.cons_ne_nil, if_false]
          cases array with
          | true =>
              rw [held_of_some hset]
              apply settle_copyTo
              have hmoved := settle_frame (settle_releases set.msgs.toList)
                ({set.block} + ((set.queue.map Prod.snd : List Block) : Multiset Block))
              have hheld : set.held = (set.msgs.toList : Multiset Block) +
                  ({set.block} + (set.queue.map Prod.snd : List Block)) := by
                rw [MsgSet.held]
                ac_rfl
              rw [hheld]
              apply settle_trans hmoved
              simp only [settle_acquire, settle_nil, MsgSet.held, hqueue, Option.toList_some,
                Multiset.coe_singleton, ← Multiset.singleton_add, zero_add, add_zero]
              congr 1
              ac_rfl
          | false => simp only [settle_nil, Bool.false_eq_true, if_false, add_zero]

theorem settle_reset {set : MsgSet} (hset : b.msgSet = some set) :
    settle b.held b.i2cMsgReset.2.1 = some {set.block} := by
  have hqueue := settle_releases (set.queue.map Prod.snd)
  rw [List.map_map] at hqueue
  have hboth := settle_both hqueue (settle_releases set.msgs.toList)
  have hframe := settle_frame hboth {set.block}
  have hheld : b.held = (set.queue.map Prod.snd : List Block) +
      (set.msgs.toList : Multiset Block) + {set.block} := by
    rw [held_of_some hset, MsgSet.held]
    ac_rfl
  simp only [i2cMsgReset, hset, hheld]
  rw [zero_add, zero_add] at hframe
  exact hframe

/-- All that hangs on the builder is freed. -/
theorem settle_deinit (b : I2cMsgBuilder) : settle b.held b.i2cMsgDeinit.2.1 = some 0 := by
  cases hset : b.msgSet with
  | none => simp only [i2cMsgDeinit, I2cMsgBuilder.held, hset, settle_nil, Option.elim_none]
  | some set =>
      simp only [i2cMsgDeinit, hset]
      apply settle_trans (settle_reset hset)
      exact settle_release 0 set.block []

/-- What a call takes over is in the builder behind it, or the call drops it. -/
theorem settle_call (b : I2cMsgBuilder) (c : BuilderCall) :
    settle b.held (callEvents b c) = some ((callStep b c).held + b.leak c) := by
  cases c with
  | init allocated =>
      rw [callEvents, callStep, call, i2cMsgInitialize, leak]
      cases allocated with
      | true =>
          simp only [if_true, settle_acquire, settle_nil, I2cMsgBuilder.held, Option.elim_some,
            MsgSet.held, Option.toList_none, Multiset.coe_nil, List.map_nil, add_zero,
            ← Multiset.singleton_add]
      | false =>
          simp only [Bool.false_eq_true, if_false, settle_nil, I2cMsgBuilder.held,
            Option.elim_none, zero_add]
  | add msg array buffer => exact settle_i2cMsgAdd msg array buffer
  | reset =>
      rw [callEvents, callStep, call, leak, add_zero]
      cases hset : b.msgSet with
      | none => simp only [i2cMsgReset, hset, settle_nil]
      | some set =>
          rw [settle_reset hset]
          simp only [i2cMsgReset, hset, I2cMsgBuilder.held, Option.elim_some, MsgSet.held,
            Option.toList_none, Multiset.coe_nil, List.map_nil, add_zero]
  | deinit =>
      rw [callEvents, callStep, call, leak, add_zero, settle_deinit]
      cases hset : b.msgSet with
      | none => simp only [i2cMsgDeinit, hset, I2cMsgBuilder.held, Option.elim_none]
      | some set => simp only [i2cMsgDeinit, hset, I2cMsgBuilder.held, Option.elim_none]

theorem settle_life (calls : List BuilderCall) :
    settle 0 (lifeEvents calls) = some (lost callStep leak new calls) := by
  have hrun := settle_run (I := fun _ : I2cMsgBuilder => True) (fun _ _ _ => trivial)
    (fun b c _ => settle_call b c) (s := new) trivial calls
  have hdeinit := settle_frame (settle_deinit (Machine.run callStep new calls))
    (lost callStep leak new calls)
  rw [zero_add] at hdeinit
  have hcalls := settle_frame (settle_trans hrun hdeinit) {new.block}
  have hstart : new.held + {new.block} = {new.block} := zero_add _
  rw [hstart] at hcalls
  rw [lifeEvents, List.append_assoc [_]]
  apply settle_trans (settle_trans (settle_acquire 0 new.block []) hcalls)
  rw [add_comm, Multiset.singleton_add, settle_release, settle_nil]

/-- The queue changes as the list does that the flush takes its messages from: a message is
added if nothing fails, and every other call empties it. -/
theorem callStep_messages (b : I2cMsgBuilder) (c : BuilderCall) :
    (callStep b c).messages =
      match c with
      | .add msg _ _ =>
          if (b.call c).2.2 = .ok then AtScaleDebug.i2cMsgAdd b.messages msg else b.messages
      | .init _ | .reset | .deinit => [] := by
  have hcopy {next : I2cMsgBuilder} {set : MsgSet} {events : List (Event Block)}
      (msg : AsdI2cMsg) (buffer : Bool) (hqueue : set.queue.map Prod.fst = b.messages) :
      (next.copyTo set msg buffer events).1.messages =
        if (next.copyTo set msg buffer events).2.2 = .ok then
          AtScaleDebug.i2cMsgAdd b.messages msg else b.messages := by
    rw [copyTo, ← hqueue]
    cases buffer with
    | false => rfl
    | true => exact List.map_append
  rw [callStep]
  cases hset : b.msgSet with
  | none =>
      cases c with
      | init allocated => cases allocated <;> rfl
      | add msg array buffer => simp only [call, i2cMsgAdd, hset, reduceCtorEq, if_false]
      | reset => simp only [call, i2cMsgReset, messages, hset, Option.elim_none]
      | deinit => simp only [call, i2cMsgDeinit, messages, hset, Option.elim_none]
  | some set =>
      have hmessages : set.queue.map Prod.fst = b.messages := by
        rw [messages, hset]
        rfl
      cases c with
      | init allocated => cases allocated <;> rfl
      | reset => simp only [call, i2cMsgReset, messages, hset, Option.elim_some, List.map_nil]
      | deinit => simp only [call, i2cMsgDeinit, messages, hset, Option.elim_none]
      | add msg array buffer =>
          simp only [call, i2cMsgAdd, hset]
          cases hqueue : set.queue with
          | nil =>
              rw [hqueue] at hmessages
              cases array with
              | true => exact hcopy msg buffer (hqueue ▸ hmessages)
              | false => exact hmessages
          | cons entry queue =>
              rw [hqueue] at hmessages
              cases array with
              | true => exact hcopy msg buffer (hqueue ▸ hmessages)
              | false => rfl

/-- The message set is initialised once more, or the array is allocated once more: it is
there without a message after an addition that failed. -/
def Drops (b : I2cMsgBuilder) : BuilderCall → Prop
  | .init _ => b.msgSet ≠ none
  | .add _ _ _ => ∃ set, b.msgSet = some set ∧ set.queue = [] ∧ set.msgs ≠ none
  | .reset | .deinit => False

theorem leak_eq_zero_iff (b : I2cMsgBuilder) (c : BuilderCall) : b.leak c = 0 ↔ ¬ b.Drops c := by
  cases c with
  | reset | deinit => exact iff_of_true rfl id
  | init allocated =>
      rw [leak, Drops]
      cases hset : b.msgSet with
      | none => exact iff_of_true (by rw [I2cMsgBuilder.held, hset]; rfl) fun h => h rfl
      | some set =>
          rw [held_of_some hset, MsgSet.held, add_assoc, Multiset.singleton_add]
          exact iff_of_false (Multiset.cons_ne_zero) fun h => h (Option.some_ne_none set)
  | add msg array buffer =>
      rw [leak, Drops]
      cases hset : b.msgSet with
      | none => exact iff_of_true rfl (by rintro ⟨_, ⟨⟩, _⟩)
      | some set =>
          simp only [Option.elim_some, Option.some.injEq, exists_eq_left']
          split
          · next hqueue =>
              cases hmsgs : set.msgs with
              | none => exact iff_of_true rfl fun h => h.2 rfl
              | some block =>
                  exact iff_of_false (Multiset.singleton_ne_zero block) fun h =>
                    h ⟨hqueue, Option.some_ne_none block⟩
          · next hqueue => exact iff_of_true rfl fun h => hqueue h.1

theorem lost_eq_zero_iff_meets (calls : List BuilderCall) :
    lost callStep leak new calls = 0 ↔
      Machine.Meets callStep (fun b c => ¬ b.Drops c) new calls := by
  rw [lost_eq_zero_iff]
  simp only [leak_eq_zero_iff]

/-- No use of a builder frees a block twice, or one that it does not hold, and a use returns
all memory if and only if it neither initialises nor allocates anything that is there. -/
theorem builder_returned_iff (calls : List BuilderCall) :
    (settle 0 (lifeEvents calls)).isSome ∧
      (settle 0 (lifeEvents calls) = some 0 ↔
        Machine.Meets callStep (fun b c => ¬ b.Drops c) new calls) := by
  rw [settle_life]
  refine ⟨rfl, ?_⟩
  rw [Option.some.injEq, lost_eq_zero_iff_meets]

end Calls

end I2cMsgBuilder

section Message

/-- The `asd_i2c_msg` that a command fills. -/
def I2cMsg.asd (m : I2cMsg) (forceStop : Bool) : AsdI2cMsg where
  read := m.read
  forceStop := forceStop
  address := m.address
  length := .ofNat m.buffer.length
  buffer := fun i => m.buffer.getD i 0
  short := by
    rw [UInt8.toNat_ofNat']
    exact (Nat.mod_le _ _).trans m.short

/-- What becomes of a command: whether a bus select or a clock is set, what the allocations
of an addition return, and whether the responses of a flush are built. -/
structure I2cRoundIo where
  done : Bool
  array : Bool
  buffer : Bool
  built : Bool

/-- A message with the allocations of the builder and of the message set. -/
structure I2cMemoryIo where
  builder : Bool
  msgSet : Bool
  round : Nat → I2cRoundIo

/-- The calls that the loop of `process_i2c_messages` makes. A bus select that fails goes on
without a flush, and every other failure ends the loop. -/
def loopCalls (io : Nat → I2cRoundIo) (k : Nat) (pending forceStop : Bool) :
    List UInt8 → List BuilderCall
  | [] => []
  | byte :: packet =>
      match h : nextI2cCommand (byte :: packet) with
      | none => []
      | some (command, rest) =>
          let flush (pending forceStop : Bool) :=
            if pending && (rest = [] || forceStop) then
              if (io k).built then .reset :: loopCalls io (k + 1) false false rest else []
            else loopCalls io (k + 1) pending forceStop rest
          match command with
          | .busSelect _ =>
              if (io k).done then flush pending forceStop
              else loopCalls io (k + 1) pending forceStop rest
          | .setSclk _ _ => if (io k).done then flush pending forceStop else []
          | .transfer msg forceStop =>
              .add (msg.asd forceStop) (io k).array (io k).buffer ::
                if (io k).array && (io k).buffer then flush true forceStop else []
termination_by packet => packet.length
decreasing_by all_goals exact nextI2cCommand_length h

/-- `process_i2c_messages`. -/
def messageMemory (header : MessageHeader) (buffer : Nat → UInt8) (io : I2cMemoryIo) :
    List (Event Block) :=
  if !io.builder then []
  else
    match getMessageSize header with
    | none => I2cMsgBuilder.lifeEvents []
    | some _ =>
        if io.msgSet then
          I2cMsgBuilder.lifeEvents
            (.init true :: loopCalls io.round 0 false false (i2cPayload header buffer))
        else I2cMsgBuilder.lifeEvents [.init false]

/-- There is an array only with messages. -/
def I2cMsgBuilder.Filled (b : I2cMsgBuilder) : Prop :=
  ∃ set, b.msgSet = some set ∧ (set.queue = [] → set.msgs = none)

section Filled
variable {b : I2cMsgBuilder} (h : b.Filled)
include h

theorem filled_reset : (I2cMsgBuilder.callStep b .reset).Filled := by
  obtain ⟨set, hset, _⟩ := h
  rw [I2cMsgBuilder.callStep, I2cMsgBuilder.call, I2cMsgBuilder.i2cMsgReset, hset]
  exact ⟨_, rfl, fun _ => rfl⟩

theorem filled_add (msg : AsdI2cMsg) : (I2cMsgBuilder.callStep b (.add msg true true)).Filled := by
  obtain ⟨set, hset, _⟩ := h
  have hsome {entry : DriverI2cMsg × Block} : [entry] ≠ [] := List.cons_ne_nil entry []
  simp only [I2cMsgBuilder.callStep, I2cMsgBuilder.call, I2cMsgBuilder.i2cMsgAdd, hset]
  cases set.queue with
  | nil => exact ⟨_, rfl, fun hnil => absurd hnil (List.append_ne_nil_of_right_ne_nil _ hsome)⟩
  | cons => exact ⟨_, rfl, fun hnil => absurd hnil (List.append_ne_nil_of_right_ne_nil _ hsome)⟩

theorem not_drops_add (msg : AsdI2cMsg) (array buffer : Bool) :
    ¬ b.Drops (.add msg array buffer) := by
  intro hdrops
  obtain ⟨set, hset, hqueue, hmsgs⟩ := hdrops
  obtain ⟨set', hset', hfilled⟩ := h
  cases hset.symm.trans hset'
  exact hmsgs (hfilled hqueue)

/-- The loop adds to an array that has messages, or to none. -/
theorem loopCalls_meets (io : Nat → I2cRoundIo) (k : Nat) (pending forceStop : Bool)
    (packet : List UInt8) :
    Machine.Meets I2cMsgBuilder.callStep (fun b c => ¬ b.Drops c) b
      (loopCalls io k pending forceStop packet) := by
  induction hlength : packet.length using Nat.strong_induction_on
    generalizing b k pending forceStop packet with
  | _ n ih =>
      cases packet with
      | nil =>
          rw [loopCalls]
          exact True.intro
      | cons byte packet =>
          rw [loopCalls]
          split
          · exact True.intro
          · next command rest hnext =>
              have hrest {t : I2cMsgBuilder} (ht : t.Filled) (pending forceStop : Bool) :=
                ih rest.length (hlength ▸ nextI2cCommand_length hnext) ht (k + 1) pending forceStop
                  rest rfl
              have hflush {t : I2cMsgBuilder} (ht : t.Filled) (pending forceStop : Bool) :
                  Machine.Meets I2cMsgBuilder.callStep (fun b c => ¬ b.Drops c) t
                    (if pending && (rest = [] || forceStop) then
                      if (io k).built then .reset :: loopCalls io (k + 1) false false rest else []
                    else loopCalls io (k + 1) pending forceStop rest) := by
                split
                · split
                  · exact ⟨id, hrest (filled_reset ht) false false⟩
                  · exact True.intro
                · exact hrest ht pending forceStop
              dsimp only
              cases command with
              | busSelect bus =>
                  dsimp only
                  split
                  · exact hflush h pending forceStop
                  · exact hrest h pending forceStop
              | setSclk lsb msb =>
                  dsimp only
                  split
                  · exact hflush h pending forceStop
                  · exact True.intro
              | transfer msg force =>
                  refine ⟨not_drops_add h _ _ _, ?_⟩
                  cases harray : (io k).array with
                  | false => exact True.intro
                  | true =>
                      cases hbuffer : (io k).buffer with
                      | false => exact True.intro
                      | true => exact hflush (filled_add h _) true force

end Filled

/-- Whatever a message holds, and whichever allocations, transfers and writes fail, the
processing of the message frees all memory of its queue, and none of it twice. -/
theorem i2c_message_returned (header : MessageHeader) (buffer : Nat → UInt8)
    (io : I2cMemoryIo) : settle 0 (messageMemory header buffer io) = some 0 := by
  have hlife {calls : List BuilderCall} (hmeets : Machine.Meets I2cMsgBuilder.callStep
      (fun b c => ¬ b.Drops c) I2cMsgBuilder.new calls) :
      settle 0 (I2cMsgBuilder.lifeEvents calls) = some 0 := by
    rw [I2cMsgBuilder.settle_life, (I2cMsgBuilder.lost_eq_zero_iff_meets calls).mpr hmeets]
  have hnew (allocated : Bool) : ¬ I2cMsgBuilder.new.Drops (.init allocated) := fun h => h rfl
  rw [messageMemory]
  split
  · rfl
  split
  · exact hlife True.intro
  · split
    · apply hlife
      refine ⟨hnew true, ?_⟩
      exact loopCalls_meets ⟨_, rfl, fun _ => rfl⟩ io.round 0 false false _
    · exact hlife ⟨hnew false, True.intro⟩

end Message

end AtScaleDebug
