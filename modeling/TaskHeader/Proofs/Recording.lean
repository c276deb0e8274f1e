import Mathlib.Data.List.Forall2
import TaskHeader.Block.Recorder
import TaskHeader.Header

/-!
# Recorded runs

Several headers are rendered one after the other through one recorder (`Header.renderAll`).

* A recorder answers the requests that it does not refuse and keeps them, and what follows is rendered as if asked alone
  (`Recorder.renderBlocks_append`, by induction on the requests).
* So rendering one header either keeps all its requests and gives the markers of all, or keeps those of the interfaces
  before the first of the name to refuse and ends there (`Recorder.Recorded`, `Recorder.render_recorded`). The block of
  the driver is never refused.
* By induction on the tasks, the record after a run is what was there before it and then the part of each header in turn
  (`Recorder.renderAll_recorded`).
-/

namespace TaskHeader

/-- Renders headers one after the other, each in the state that the one before left. -/
def Header.renderAll {σ : Type} (b : Backend σ) : List Task → σ → List (Except RenderError String) × σ
  | [], s => ([], s)
  | t :: ts, s =>
    let done := render b t s
    let more := renderAll b ts done.state
    (done.outcome :: more.1, more.2)

namespace Recorder

open Header

/-- The recorder with more requests at the end of its record. -/
def keep (s : Recorder) (rs : List BlockRequest) : Recorder :=
  { s with blocks := s.blocks ++ rs }

@[simp]
theorem failOn_keep (s : Recorder) (rs : List BlockRequest) : (s.keep rs).failOn = s.failOn := rfl

@[simp]
theorem keep_nil (s : Recorder) : s.keep [] = s := by
  simp [keep]

@[simp]
theorem keep_keep (s : Recorder) (as bs : List BlockRequest) : (s.keep as).keep bs = s.keep (as ++ bs) := by
  simp [keep]

/-! ## One request -/

theorem refuses_interface_iff {failOn : Option String} {i : Interface} :
    refuses failOn i.request = true ↔ failOn = some i.name := by
  cases failOn <;> simp [refuses, Interface.request]

/-- The block of the driver is never refused. -/
theorem refuses_driver (failOn : Option String) (d : Driver) : refuses failOn d.request = false := by
  cases failOn <;> simp [refuses, Driver.request]

theorem render_answered {s : Recorder} {r : BlockRequest} (h : refuses s.failOn r = false) :
    render r s = (.ok (marker r), s.keep [r]) := by
  rw [render, h]
  rfl

theorem render_refused {s : Recorder} {i : Interface} (h : s.failOn = some i.name) :
    render i.request s = (.error (.backend "recording" ("refusing to render '" ++ i.name ++ "'")), s) := by
  rw [render, refuses_interface_iff.2 h]
  rfl

/-! ## The requests of a header -/

/-- Requests that are not refused are kept and answered by their markers, and then the others are rendered; by induction
on the requests. -/
theorem renderBlocks_append (taskName : String) (rest : List BlockRequest) : ∀ (rs : List BlockRequest) (s : Recorder),
    (∀ r ∈ rs, refuses s.failOn r = false) →
      (renderBlocks backend taskName (rs ++ rest) s).outcome
          = (renderBlocks backend taskName rest (s.keep rs)).outcome.map (rs.map marker ++ ·) ∧
        (renderBlocks backend taskName (rs ++ rest) s).state = (renderBlocks backend taskName rest (s.keep rs)).state
  | [], s, _ => by
    rw [keep_nil]
    refine ⟨?_, rfl⟩
    cases h : (renderBlocks backend taskName rest s).outcome <;> simp [h, Except.map]
  | r :: rs, s, h => by
    have hr : backend.render r s = (.ok (marker r), s.keep [r]) := render_answered (h r List.mem_cons_self)
    obtain ⟨houtcome, hstate⟩ :=
      renderBlocks_append taskName rest rs (s.keep [r]) fun q hq => h q (List.mem_cons_of_mem r hq)
    rw [keep_keep, List.singleton_append] at houtcome hstate
    rw [List.cons_append, renderBlocks, hr]
    refine ⟨?_, hstate⟩
    simp only [houtcome]
    cases (renderBlocks backend taskName rest (s.keep (r :: rs))).outcome <;> rfl

theorem renderBlocks_answered (taskName : String) {rs : List BlockRequest} {s : Recorder}
    (h : ∀ r ∈ rs, refuses s.failOn r = false) :
    (renderBlocks backend taskName rs s).outcome = .ok (rs.map marker) ∧
      (renderBlocks backend taskName rs s).state = s.keep rs := by
  have hdone := renderBlocks_append taskName [] rs s h
  simpa [renderBlocks, Except.map] using hdone

/-! ## One header -/

/-- What one header leaves in the record, and how rendering it ends. -/
structure Answer where
  blocks : List BlockRequest
  outcome : Except RenderError String

/-- **The record of a header** with a recorder that refuses a name or none. All requests are kept, unless an interface
has the name: then those of the interfaces before the first such one are. -/
inductive Recorded (failOn : Option String) (t : Task) : Answer → Prop
  | whole : (∀ i ∈ t.interfaces, failOn ≠ some i.name) →
      Recorded failOn t
        { blocks := t.interfaces.map (·.request) ++ [t.driver.request]
          outcome := .ok (ofBlocks ((requests t).map marker)) }
  | cut {name : String} {before after : List Interface} {i : Interface} :
      failOn = some name → t.interfaces = before ++ i :: after → i.name = name → (∀ j ∈ before, j.name ≠ name) →
      Recorded failOn t
        { blocks := before.map (·.request)
          outcome := .error (.backend "recording" ("refusing to render '" ++ name ++ "'")) }

/-- A recorder that refuses no interface of a task keeps all its requests. -/
theorem render_whole {s : Recorder} {t : Task} (h : ∀ i ∈ t.interfaces, s.failOn ≠ some i.name) :
    (Header.render backend t s).outcome = .ok (ofBlocks ((requests t).map marker)) ∧
      (Header.render backend t s).state = s.keep (requests t) := by
  have hanswered : ∀ r ∈ requests t, refuses s.failOn r = false := by
    simp only [requests, List.forall_mem_append, List.forall_mem_map, List.forall_mem_singleton]
    exact ⟨fun i hi => Bool.eq_false_iff.2 (mt refuses_interface_iff.1 (h i hi)), refuses_driver s.failOn t.driver⟩
  obtain ⟨houtcome, hstate⟩ := renderBlocks_answered t.name hanswered
  rw [render_outcome, render_state, houtcome, hstate]
  exact ⟨rfl, rfl⟩

/-- A recorder that refuses an interface keeps the requests of those before it. -/
theorem render_cut {s : Recorder} {t : Task} {before after : List Interface} {i : Interface}
    (hi : s.failOn = some i.name) (hsplit : t.interfaces = before ++ i :: after)
    (hbefore : ∀ j ∈ before, j.name ≠ i.name) :
    (Header.render backend t s).outcome = .error (.backend "recording" ("refusing to render '" ++ i.name ++ "'")) ∧
      (Header.render backend t s).state = s.keep (before.map (·.request)) := by
  have hrequests : requests t
      = before.map (·.request) ++ i.request :: (after.map (·.request) ++ [t.driver.request]) := by
    simp [requests, hsplit]
  have hanswered : ∀ r ∈ before.map (·.request), refuses s.failOn r = false := by
    rw [List.forall_mem_map]
    intro j hj
    rw [Bool.eq_false_iff, Ne, refuses_interface_iff, hi]
    exact fun e => hbefore j hj (Option.some.inj e).symm
  have hrefused : backend.render i.request (s.keep (before.map (·.request)))
      = (.error (.backend "recording" ("refusing to render '" ++ i.name ++ "'")), s.keep (before.map (·.request))) :=
    render_refused ((failOn_keep _ _).trans hi)
  obtain ⟨houtcome, hstate⟩ := renderBlocks_append t.name (i.request :: (after.map (·.request) ++ [t.driver.request]))
    (before.map (·.request)) s hanswered
  rw [render_outcome, render_state, hrequests, houtcome, hstate]
  simp [renderBlocks, hrefused, Except.map]

/-- **One header** is recorded whole or up to the interface to refuse, after all that was recorded before. -/
theorem render_recorded (s : Recorder) (t : Task) : ∃ a, Recorded s.failOn t a ∧
    (Header.render backend t s).outcome = a.outcome ∧ (Header.render backend t s).state = s.keep a.blocks := by
  cases hfind : t.interfaces.find? (fun i => s.failOn == some i.name) with
  | none =>
    have hnone : ∀ i ∈ t.interfaces, s.failOn ≠ some i.name := by
      intro i hi
      simpa using List.find?_eq_none.1 hfind i hi
    exact ⟨_, .whole hnone, render_whole hnone⟩
  | some i =>
    rw [List.find?_eq_some_iff_append] at hfind
    obtain ⟨hi, before, after, hsplit, hbefore⟩ := hfind
    rw [beq_iff_eq] at hi
    have hnames : ∀ j ∈ before, j.name ≠ i.name := by
      intro j hj
      have hother : some i.name ≠ some j.name := by simpa [hi] using hbefore j hj
      exact fun e => hother (congrArg some e.symm)
    exact ⟨_, .cut hi hsplit rfl hnames, render_cut hi hsplit hnames⟩

/-! ## Runs -/

/-- **The record is exact over whole runs**: each header is recorded whole or up to the first interface to refuse, where
it ends with the refusal, and the record is what was there before the run and then the parts of the headers in turn. -/
theorem renderAll_recorded (ts : List Task) (s : Recorder) :
    (∃ answers : List Answer, List.Forall₂ (Recorded s.failOn) ts answers ∧
      renderAll backend ts s
        = (answers.map (·.outcome), { failOn := s.failOn, blocks := s.blocks ++ answers.flatMap (·.blocks) })) ∧
      ∀ d : Driver, ∃ text, (render d.request s).1 = .ok text := by
  refine ⟨?_, fun d => ⟨marker d.request, by rw [render_answered (refuses_driver s.failOn d)]⟩⟩
  induction ts generalizing s with
  | nil => exact ⟨[], .nil, by simp [renderAll]⟩
  | cons t ts ih =>
    obtain ⟨a, ha, houtcome, hstate⟩ := render_recorded s t
    obtain ⟨answers, hanswers, hrun⟩ := ih (s.keep a.blocks)
    refine ⟨a :: answers, .cons ha hanswers, ?_⟩
    rw [renderAll, hstate, hrun, houtcome]
    simp [keep]

/-- A dash for a name refuses the interface of that name and not the driver, which has none. -/
example :
    let whole : Task := { name := "s", interfaces := [{ name := "a" }] }
    let cut : Task := { name := "t", interfaces := [{ name := "b" }, { name := "-" }] }
    (renderAll backend [whole, cut] { failOn := some "-" }).2.blocks.map (·.interfaceName)
      = [some "a", none, some "b"] := by
  decide

end Recorder

end TaskHeader
