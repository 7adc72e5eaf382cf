import Mathlib.Data.List.Induction

/-! Runs of a machine: a state, and a step that may refuse an event. A run is any list of events
that can happen one after the other. What holds of every run is proved by adding one event at its
end, so a statement may speak of the events so far beside the state they lead to. -/

namespace Courier

variable {σ ι β : Type}

/-- The state after a run, if each event could happen in its turn. -/
def run (step : σ → ι → Option σ) (s : σ) : List ι → Option σ
  | [] => some s
  | e :: es => (step s e).bind fun t => run step t es

/-- What the steps of a run write down, in order. Each step sees the states it leads between. -/
def log (step : σ → ι → Option σ) (note : σ → σ → List β) (s : σ) : List ι → List β
  | [] => []
  | e :: es => match step s e with
    | none => []
    | some t => note s t ++ log step note t es

/-- The events of a run, each with the state in which it happens. -/
def trace (step : σ → ι → Option σ) (s : σ) : List ι → List (σ × ι)
  | [] => []
  | e :: es => match step s e with
    | none => []
    | some t => (s, e) :: trace step t es

theorem filterMap_concat {γ : Type} (f : ι → Option γ) (l : List ι) (x : ι) :
    (l ++ [x]).filterMap f = l.filterMap f ++ (f x).toList := by
  rw [List.filterMap_append]
  cases read : f x <;> simp [read]

theorem run_append (step : σ → ι → Option σ) (s : σ) (es fs : List ι) :
    run step s (es ++ fs) = (run step s es).bind fun t => run step t fs := by
  induction es generalizing s with
  | nil => rfl
  | cons e es ih =>
    simp only [List.cons_append, run]
    cases step s e with
    | none => rfl
    | some t => exact ih t

theorem run_single {step : σ → ι → Option σ} {s t : σ} {e : ι} (next : step s e = some t) :
    run step s [e] = some t := by
  rw [run, next, Option.bind_some, run]

/-- A run that goes on where another one came to. -/
theorem run_trans {step : σ → ι → Option σ} {r s t : σ} {es fs : List ι}
    (first : run step r es = some s) (later : run step s fs = some t) :
    run step r (es ++ fs) = some t := by
  rw [run_append, first, Option.bind_some, later]

theorem run_snoc {step : σ → ι → Option σ} {s u : σ} {es : List ι} {e : ι} :
    run step s (es ++ [e]) = some u ↔ ∃ t, run step s es = some t ∧ step t e = some u := by
  rw [run_append, Option.bind_eq_some_iff]
  simp only [run, Option.bind_fun_some]

theorem log_snoc {step : σ → ι → Option σ} (note : σ → σ → List β) {s t u : σ} {es : List ι}
    {e : ι} (ran : run step s es = some t) (next : step t e = some u) :
    log step note s (es ++ [e]) = log step note s es ++ note t u := by
  induction es generalizing s with
  | nil =>
    cases Option.some.inj ran
    simp [log, next]
  | cons d es ih =>
    simp only [run, Option.bind_eq_some_iff] at ran
    obtain ⟨r, first, rest⟩ := ran
    simp only [List.cons_append, log, first, ih rest, List.append_assoc]

theorem trace_append {step : σ → ι → Option σ} {s t : σ} {es : List ι} (fs : List ι)
    (ran : run step s es = some t) :
    trace step s (es ++ fs) = trace step s es ++ trace step t fs := by
  induction es generalizing s with
  | nil =>
    cases Option.some.inj ran
    rfl
  | cons e es ih =>
    obtain ⟨u, stepped, rest⟩ := Option.bind_eq_some_iff.mp ran
    simp only [List.cons_append, trace, stepped, ih rest]

theorem trace_snoc {step : σ → ι → Option σ} {s t u : σ} {es : List ι} {e : ι}
    (ran : run step s es = some t) (next : step t e = some u) :
    trace step s (es ++ [e]) = trace step s es ++ [(t, e)] := by
  rw [trace_append [e] ran]
  simp only [trace, next]

theorem trace_events {step : σ → ι → Option σ} {s t : σ} {es : List ι} (ran : run step s es = some t) :
    (trace step s es).map (·.2) = es := by
  induction es generalizing s with
  | nil => rfl
  | cons e es ih =>
    obtain ⟨u, stepped, rest⟩ := Option.bind_eq_some_iff.mp ran
    simp only [trace, stepped, List.map_cons, ih rest]

/-- An event of a trace stands in the run, after events that lead to the state it happens in. -/
theorem trace_reached {step : σ → ι → Option σ} {s : σ} {es : List ι} {x : σ × ι}
    (member : x ∈ trace step s es) :
    ∃ before after, es = before ++ x.2 :: after ∧ run step s before = some x.1 := by
  induction es generalizing s with
  | nil => cases member
  | cons e es ih =>
    rw [trace] at member
    cases stepped : step s e with
    | none => simp [stepped] at member
    | some t =>
      rw [stepped] at member
      rcases List.mem_cons.mp member with rfl | later
      · exact ⟨[], es, rfl, rfl⟩
      · obtain ⟨before, after, rfl, ran⟩ := ih later
        exact ⟨e :: before, after, rfl, by rw [run, stepped, Option.bind_some, ran]⟩

/-- An invariant of every run, in terms of its events and its last state. -/
theorem run_invariant {step : σ → ι → Option σ} {start : σ} {P : List ι → σ → Prop}
    (base : P [] start)
    (next : ∀ es s e t, run step start es = some s → P es s → step s e = some t →
      P (es ++ [e]) t)
    {es : List ι} {s : σ} (reached : run step start es = some s) : P es s := by
  induction es using List.reverseRecOn generalizing s with
  | nil => exact Option.some.inj reached ▸ base
  | append_singleton es e ih =>
    obtain ⟨r, before, last⟩ := run_snoc.mp reached
    exact next es r e s before (ih before) last

end Courier
