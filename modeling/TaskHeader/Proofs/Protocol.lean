import TaskHeader.Header

/-!
# What rendering asks of a backend

A backend is any function of a request and a state. To see which requests rendering makes, the backend notes every
call it gets (`Backend.noting`); noting changes nothing else.

* `Calls b s cs s'`: the calls `cs` are answers of `b`, the first made in the state `s`, each later one in the state
  that the one before left, and the last left `s'`.
* A list of requests is worked off from the front to the first that fails (`Finished`), by induction on the list
  (`renderBlocks_calls`).
* So a header takes the requests of the interfaces in their order and then that of the driver, each once, and its text
  is made of their answers and of nothing else (`render_calls`).
-/

namespace TaskHeader

variable {σ : Type}

/-! ## Calls -/

/-- A request to a backend with its answer, and the states before and after it. -/
structure Call (σ : Type) where
  request : BlockRequest
  before : σ
  answer : Except RenderError String
  after : σ

/-- The backend that works like another one and notes its calls in order. -/
def Backend.noting (b : Backend σ) : Backend (σ × List (Call σ)) :=
  { name := b.name
    render := fun r s =>
      let done := b.render r s.1
      (done.1, done.2, s.2 ++ [⟨r, s.1, done.1, done.2⟩]) }

/-- Calls of a backend made one after the other, from a state to a state. -/
inductive Calls (b : Backend σ) : σ → List (Call σ) → σ → Prop
  | nil (s : σ) : Calls b s [] s
  | cons {r : BlockRequest} {answer : Except RenderError String} {s s₁ s₂ : σ} {cs : List (Call σ)} :
      b.render r s = (answer, s₁) → Calls b s₁ cs s₂ → Calls b s (⟨r, s, answer, s₁⟩ :: cs) s₂

/-- How the calls for a list of requests end: all are answered by texts, or all before the last, which fails. -/
def Finished (rs : List BlockRequest) (cs : List (Call σ)) : Except RenderError (List String) → Prop
  | .ok texts => cs.map (·.request) = rs ∧ cs.map (·.answer) = texts.map .ok
  | .error e => ∃ texts : List String,
      cs.map (·.request) = rs.take (texts.length + 1) ∧ cs.map (·.answer) = texts.map .ok ++ [.error e]

/-- A request answered by a text comes before the others. -/
theorem Finished.cons {rs : List BlockRequest} {cs : List (Call σ)} {outcome : Except RenderError (List String)}
    (h : Finished rs cs outcome) (r : BlockRequest) (s s₁ : σ) (text : String) :
    Finished (r :: rs) (⟨r, s, .ok text, s₁⟩ :: cs) (outcome.map (text :: ·)) := by
  cases outcome with
  | ok texts =>
    obtain ⟨hr, ha⟩ := h
    exact ⟨by simp [hr], by simp [ha]⟩
  | error e =>
    obtain ⟨texts, hr, ha⟩ := h
    exact ⟨text :: texts, by simp [hr], by simp [ha]⟩

namespace Header

/-- **The calls for a list of requests**, by induction on the list; the note `log` is what was called before. -/
theorem renderBlocks_calls (b : Backend σ) (taskName : String) :
    ∀ (rs : List BlockRequest) (s : σ) (log : List (Call σ)), ∃ cs,
      (renderBlocks b.noting taskName rs (s, log)).state = ((renderBlocks b taskName rs s).state, log ++ cs) ∧
        (renderBlocks b.noting taskName rs (s, log)).outcome = (renderBlocks b taskName rs s).outcome ∧
        Calls b s cs (renderBlocks b taskName rs s).state ∧ Finished rs cs (renderBlocks b taskName rs s).outcome
  | [], s, log => ⟨[], by simp [renderBlocks], rfl, .nil s, rfl, rfl⟩
  | r :: rs, s, log => by
    rcases hcall : b.render r s with ⟨answer, s₁⟩
    cases answer with
    | error e =>
      refine ⟨[⟨r, s, .error e, s₁⟩], ?_, ?_, ?_, ?_⟩
      · simp [renderBlocks, Backend.noting, hcall]
      · simp [renderBlocks, Backend.noting, hcall]
      · simpa [renderBlocks, hcall] using Calls.cons hcall (.nil s₁)
      · simp only [renderBlocks, hcall]
        exact ⟨[], by simp, by simp⟩
    | ok text =>
      obtain ⟨cs, hstate, houtcome, hcalls, hfinished⟩ :=
        renderBlocks_calls b taskName rs s₁ (log ++ [⟨r, s, .ok text, s₁⟩])
      refine ⟨⟨r, s, .ok text, s₁⟩ :: cs, ?_, ?_, ?_, ?_⟩
      · simpa [renderBlocks, Backend.noting, hcall] using hstate
      · simp only [renderBlocks, Backend.noting, hcall] at houtcome ⊢
        rw [houtcome]
      · simpa [renderBlocks, hcall] using Calls.cons hcall hcalls
      · simpa [renderBlocks, hcall] using hfinished.cons r s s₁ text

/-- **The calls for a header**: the requests of the interfaces in their order and then that of the driver, each made
once in the state that the one before left, up to the first that fails. Its error is the outcome; if none fails, the
text is made of the answers. -/
theorem render_calls (b : Backend σ) (t : Task) (s : σ) :
    requests t = t.interfaces.map (fun i => ⟨i.functions, i.callbacks, true, some i.name⟩)
        ++ [⟨[], t.driver.functions, false, none⟩] ∧
      ∃ cs : List (Call σ),
        (render b.noting t (s, [])).state = ((render b t s).state, cs) ∧
        (render b.noting t (s, [])).outcome = (render b t s).outcome ∧
        Calls b s cs (render b t s).state ∧
        ((∃ texts last, cs.map (·.request) = requests t ∧ cs.map (·.answer) = (texts ++ [last]).map .ok ∧
            (render b t s).outcome
              = .ok ("#include \"support_proto.h\"\n" ++ "\n" ++ String.join (texts.map (· ++ "\n")) ++ last)) ∨
          ∃ (texts : List String) (e : RenderError), cs.map (·.request) = (requests t).take (texts.length + 1) ∧
            cs.map (·.answer) = texts.map .ok ++ [.error e] ∧ (render b t s).outcome = .error e) := by
  refine ⟨rfl, ?_⟩
  obtain ⟨cs, hstate, houtcome, hcalls, hfinished⟩ := renderBlocks_calls b t.name (requests t) s []
  refine ⟨cs, ?_, ?_, ?_, ?_⟩
  · rw [render_state, render_state, hstate, List.nil_append]
  · rw [render_outcome, render_outcome, houtcome]
  · rw [render_state]
    exact hcalls
  · rw [render_outcome]
    cases hblocks : (renderBlocks b t.name (requests t) s).outcome with
    | error e =>
      rw [hblocks] at hfinished
      obtain ⟨texts, hr, ha⟩ := hfinished
      exact .inr ⟨texts, e, hr, ha, rfl⟩
    | ok texts =>
      rw [hblocks] at hfinished
      obtain ⟨hr, ha⟩ := hfinished
      rcases List.eq_nil_or_concat texts with rfl | ⟨texts, last, rfl⟩
      · rw [List.map_nil, List.map_eq_nil_iff] at ha
        simp [ha, requests] at hr
      · rw [List.concat_eq_append] at ha
        refine .inl ⟨texts, last, hr, ha, ?_⟩
        have hpreamble : preamble = "#include \"support_proto.h\"\n" ++ "\n" := by decide
        rw [Except.map, List.concat_eq_append, ofBlocks_append, hpreamble]

end Header

end TaskHeader
