import Mathlib.Tactic

/-!
# Runs of a partial step function under a guard

A system is a partial step function on labelled events; a guard says which events a run may
take in which state.  Reachability under a guard packages the induction over runs once, and
lists of events replay concrete runs.

* `Reach.invariant` — an invariant of the guarded steps holds in every state reached.
* `Reach.mono` — a weaker guard reaches more.
* `Reach.of_replay`, `Reach.of_replay_mem` — a list of events whose replay succeeds reaches its last
  state.
* `Reach.iterate` — repeating one event, with the state after each round known.
-/

set_option autoImplicit false

namespace GuardedRuns

variable {σ ε : Type*} {step : σ → ε → Option σ} {ok ok' : σ → ε → Prop} {start : σ}

/-- The states reached from `start` by steps whose events satisfy the guard `ok`. -/
inductive Reach (step : σ → ε → Option σ) (ok : σ → ε → Prop) (start : σ) : σ → Prop
  | start : Reach step ok start start
  | step {s s' : σ} {e : ε} : Reach step ok start s → ok s e → step s e = some s' →
      Reach step ok start s'

/-- Every event is allowed. -/
def anyEvent (_ : σ) (_ : ε) : Prop := True

/-- **The induction over runs**: what holds at the start and is kept by every allowed step from
    a reached state holds in every state reached. -/
theorem Reach.invariant {I : σ → Prop} (h0 : I start)
    (hstep : ∀ s e s', Reach step ok start s → I s → ok s e → step s e = some s' → I s')
    {s : σ} (h : Reach step ok start s) : I s := by
  induction h with
  | start => exact h0
  | step hs hok he ih => exact hstep _ _ _ hs ih hok he

theorem Reach.mono (himp : ∀ s e, ok s e → ok' s e) {s : σ} (h : Reach step ok start s) :
    Reach step ok' start s := by
  induction h with
  | start => exact Reach.start
  | step _ hok he ih => exact Reach.step ih (himp _ _ hok) he

/-- Replay of a list of events; an event the guard refuses stops the replay. -/
def replay (step : σ → ε → Option σ) (okb : σ → ε → Bool) : σ → List ε → Option σ
  | s, [] => some s
  | s, e :: es => if okb s e then (step s e).bind (replay step okb · es) else none

/-- The check `okb` may speak of the listed events only. -/
theorem Reach.of_replay_mem {okb : σ → ε → Bool} :
    ∀ {es : List ε} {s t : σ}, (∀ s, ∀ e ∈ es, okb s e = true → ok s e) → Reach step ok start s →
      replay step okb s es = some t → Reach step ok start t
  | [], s, t, _, hs, h => by simp [replay] at h; subst h; exact hs
  | e :: es, s, t, hok, hs, h => by
    simp only [replay] at h
    split at h
    · rename_i hb
      obtain ⟨s', he, h'⟩ := Option.bind_eq_some_iff.1 h
      exact Reach.of_replay_mem (fun s e' he' => hok s e' (List.mem_cons_of_mem e he'))
        (Reach.step hs (hok s e List.mem_cons_self hb) he) h'
    · cases h

theorem Reach.of_replay {okb : σ → ε → Bool} (hok : ∀ s e, okb s e = true → ok s e) {es : List ε}
    {s t : σ} (hs : Reach step ok start s) (h : replay step okb s es = some t) :
    Reach step ok start t :=
  Reach.of_replay_mem (fun s e _ => hok s e) hs h

/-- Repeating one event when the state after `k` rounds is known in closed form. -/
theorem Reach.iterate {e : ε} {f : Nat → σ} (n : Nat) (h0 : f 0 = start)
    (hstep : ∀ k < n, ok (f k) e ∧ step (f k) e = some (f (k + 1))) :
    Reach step ok start (f n) := by
  induction n with
  | zero => rw [h0]; exact Reach.start
  | succ n ih =>
    have hn := hstep n (by omega)
    exact Reach.step (ih fun k hk => hstep k (by omega)) hn.1 hn.2

end GuardedRuns
