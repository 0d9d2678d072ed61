import Bwctl.Broker.Steps
import Bwctl.Lib.GuardedRuns

/-!
# The slot list is always in order

The list of time slots is sorted and its slots are disjoint, and no slot is empty of
reservations or over its maximum, in every state the broker reaches by demands whose times do
not wrap.  The search needs the order of the list it walks and produces it again.

* `SlotsOk.resRemove` — removals keep the list in order.
* `SlotsOk.inserted` — insertions keep the list in order.
* `slots_ok` — every reachable slot list is in order.
-/

set_option autoImplicit false

namespace Bwctl

open GuardedRuns Intervals

/-- The slots are sorted, disjoint and not empty, with a number of reservations in bounds. -/
structure SlotsOk (slots : List TimeSlot) : Prop where
  ordered : SlotsOrdered slots
  counts : ∀ u ∈ slots, 1 ≤ u.numReservations ∧ u.numReservations ≤ u.maxReservations

/-- The demand of an event, if it makes one, computes no time that wraps. -/
def NoWrap (ctx : Context) (b : Broker) (e : BrokerEvent) : Prop :=
  ∀ d, b.demand? e = some d → d.Fits ctx

instance (ctx : Context) (d : OpenDemand) : Decidable (d.Fits ctx) :=
  inferInstanceAs (Decidable (_ = true))

instance (ctx : Context) (b : Broker) (e : BrokerEvent) : Decidable (NoWrap ctx b e) :=
  inferInstanceAs (Decidable (∀ d ∈ b.demand? e, d.Fits ctx))

section Edits

variable {ctx : Context} {slots slots' : List TimeSlot} {res : Reservation}

theorem resRemove_ordered (h : SlotsOrdered slots) (res : Reservation) :
    SlotsOrdered (resRemove slots res) :=
  h.filterMap fun u v huv => by
    rcases resRemoveSlot_eq_some.1 huv with ⟨-, rfl⟩ | ⟨-, -, rfl⟩
    · exact ⟨rfl, rfl⟩
    · exact ⟨rfl, rfl⟩

theorem SlotsOk.nil : SlotsOk [] := ⟨Ordered.nil, by simp⟩

/-- **A removal** keeps the list in order. -/
theorem SlotsOk.resRemove (h : SlotsOk slots) (res : Reservation) :
    SlotsOk (resRemove slots res) := by
  refine ⟨resRemove_ordered h.ordered res, fun v hv => ?_⟩
  obtain ⟨u, hu, ⟨-, rfl⟩ | ⟨-, h1, rfl⟩⟩ := mem_resRemove.1 hv
  · exact h.counts _ hu
  · have := h.counts u hu
    simp only [timeSlotRemoveReservation]
    omega

/-- **An insertion** keeps the list in order. -/
theorem SlotsOk.inserted (h : SlotsOk slots) (hins : Inserted ctx res slots slots')
    (hse : res.resStart ≤ res.resEnd) : SlotsOk slots' := by
  refine ⟨hins.ordered h.ordered hse, fun v hv => ?_⟩
  rcases hins.mem_cases h.ordered hse hv with ⟨hv, -⟩ | ⟨u, hu, -, hcan, hvu⟩ | ⟨a, b, rfl, -⟩
  · exact h.counts v hv
  · have hc := h.counts u hu
    have hne := canUse_num hcan
    rcases mem_cutSlot.1 hvu with ⟨-, rfl⟩ | rfl | ⟨-, rfl⟩
    · exact hc
    · simp only [innerPart, addReservation_num, addReservation_max]
      omega
    · exact hc
  · simp

end Edits

section Run

variable {ctx : Context} {policy : Policy} {b b' : Broker} {e : BrokerEvent}

/-- A demand keeps the list in order, granted or denied. -/
theorem SlotsOk.demand {d : OpenDemand} (h : SlotsOk d.slots) (hfits : d.Fits ctx) :
    SlotsOk (d.outcome ctx).slots := by
  have hout := OpenDemand.outcome_spec h.ordered hfits
  generalize d.outcome ctx = o at hout
  cases hout with
  | granted x slots hg hfit hins => exact h.inserted hins (resStart_le_resEnd hfit)
  | denied x hd hfit => exact h.resRemove _

/-- **One step** keeps the list in order. -/
theorem SlotsOk.step (h : SlotsOk b.slots) (hfits : NoWrap ctx b e)
    (hstep : b.step ctx policy e = some b') : SlotsOk b'.slots :=
  Broker.step_keeps (P := fun slots _ => SlotsOk slots) (fun h _ => h) (fun _ _ h => h.resRemove _)
    (fun hd _ h => h.demand (hfits _ hd)) h hstep

/-- **In every state reached by demands whose times do not wrap the slots are sorted and disjoint,
    none is empty, and the number of reservations of each lies between one and its maximum.** -/
theorem slots_ok (h : Reach (Broker.step ctx policy) (NoWrap ctx) Broker.start b) :
    SlotsOk b.slots :=
  h.invariant (I := fun b => SlotsOk b.slots) SlotsOk.nil
    fun _ _ _ _ hi hok he => SlotsOk.step hi hok he

end Run

/-! ## A broker with one tool of each kind -/

/-- `iperf`, `ping` and `traceroute`. -/
def campusContext : Context := ⟨[(0x01, .throughput), (0x10, .latency), (0x20, .traceroute)]⟩

def campusPolicy : Policy := ⟨[.root "root" []]⟩

/-- A whole second of the year 2023. -/
def campusTime (second : UInt64) : Num64 := (3900000000 + second) <<< 32

/-- The message of a child that asks for `duration` seconds from a second on. -/
def campusDemand (i : Nat) (toolId : BWLToolType) (second : UInt64) (duration : UInt32)
    (ltime : Num64) : BrokerEvent :=
  .mesg i (.reservation
    ⟨Vector.replicate 16 0, campusTime second, 0, ltime, duration, 0, 0, toolId, "", ""⟩
    ⟨some (campusTime 0), some 5001⟩)

/-- Three children of the root class connect. -/
def campusConnects : List BrokerEvent :=
  [.connect, .mesg 0 (.className "root"), .connect, .mesg 1 (.className "root"),
   .connect, .mesg 2 (.className "root")]

/-- The state after the three connects and some more events whose times do not wrap. -/
def campusRun (es : List BrokerEvent) : Option Broker :=
  replay (Broker.step campusContext campusPolicy) (fun b e => decide (NoWrap campusContext b e))
    Broker.start (campusConnects ++ es)

theorem reach_campusRun {es : List BrokerEvent} {b : Broker} (h : campusRun es = some b) :
    Reach (Broker.step campusContext campusPolicy) (NoWrap campusContext) Broker.start b :=
  Reach.of_replay (fun _ _ => of_decide_eq_true) Reach.start h

/-- The demand of an event, if it makes one, is granted on slots of which `P` holds together with
    the reservation. -/
def Broker.GrantsOn (ctx : Context) (P : List TimeSlot → Reservation → Prop) (b : Broker)
    (e : BrokerEvent) : Prop :=
  ∀ d ∈ b.demand? e, SlotsOrdered d.slots ∧ d.Fits ctx ∧
    ∃ r ∈ (d.outcome ctx).res, P d.slots r

instance (ctx : Context) (P : List TimeSlot → Reservation → Prop) [∀ slots r, Decidable (P slots r)]
    (b : Broker) (e : BrokerEvent) : Decidable (b.GrantsOn ctx P e) :=
  inferInstanceAs (Decidable (∀ d ∈ b.demand? e, SlotsOrdered d.slots ∧ d.Fits ctx ∧
    ∃ r ∈ (d.outcome ctx).res, P d.slots r))

theorem slots_ok_campus : ∃ b,
    Reach (Broker.step campusContext campusPolicy) (NoWrap campusContext) Broker.start b ∧
      b.slots.length = 3 ∧ SlotsOk b.slots := by
  have hrun : (campusRun [campusDemand 0 0x01 100 10 0, campusDemand 1 0x20 105 3 0]).map
      (fun b => b.slots.length) = some 3 := by decide +kernel
  obtain ⟨b, hb, hlen⟩ := Option.map_eq_some_iff.1 hrun
  exact ⟨b, reach_campusRun hb, hlen, slots_ok (reach_campusRun hb)⟩

end Bwctl
