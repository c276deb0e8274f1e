import Mathlib.Algebra.Ring.Nat
import TaskHeader.Block.Recorder
import TaskHeader.Proofs.Protocol

/-!
# The trace of rendering

What is reported while a header is rendered, beside the calls of the backend.

* Each call leaves one event, which tells the request and the number of bytes of the block, or the error
  (`Call.event`, `events_renderBlocks`); by induction on the requests.
* The bytes of a header are those of its blocks, of the line feeds between them and of the lines before the first block
  (`bytes_ofBlocks`).
* So the trace of a header accounts for every block and every byte of it, or ends with the error that is the outcome
  (`render_traced`).
-/

namespace TaskHeader

variable {σ : Type}

/-! ## Events of calls -/

/-- The event that a call leaves. -/
def Call.event (taskName : String) (c : Call σ) : Event :=
  match c.answer with
  | .ok block =>
    .blockRendered c.request.interfaceName c.request.driver c.request.functions.length c.request.callbacks.length
      block.utf8ByteSize
  | .error e => .blockRenderFailed taskName c.request.interfaceName e

/-- The fields of the event of a request that is answered by a block. -/
def BlockRequest.fields (r : BlockRequest) (block : String) : List (String × FieldValue) :=
  [("interface_name", .text (r.interfaceName.getD "")), ("driver", .flag r.driver),
    ("function_count", .number r.functions.length), ("callback_count", .number r.callbacks.length),
    ("bytes", .number block.utf8ByteSize)]

/-- The bytes of the block that an event is about; none for an event that is about no block. -/
def Event.blockBytes? : Event → Option Nat
  | blockRendered _ _ _ _ bytes => some bytes
  | _ => none

namespace Call

theorem fields_event_of_ok {c : Call σ} {block : String} (h : c.answer = .ok block) (taskName : String) :
    (c.event taskName).fields = c.request.fields block := by
  rw [event, h]
  rfl

theorem event_of_error {c : Call σ} {e : RenderError} (h : c.answer = .error e) (taskName : String) :
    c.event taskName = .blockRenderFailed taskName c.request.interfaceName e := by
  rw [event, h]

theorem blockBytes?_event (taskName : String) (c : Call σ) :
    (c.event taskName).blockBytes? = c.answer.toOption.map (·.utf8ByteSize) := by
  rw [event]
  cases c.answer <;> rfl

/-- The events of answered calls count the bytes of the answers. -/
theorem blockBytes_events (taskName : String) {cs : List (Call σ)} {texts : List String}
    (h : cs.map (·.answer) = texts.map .ok) :
    (cs.map (·.event taskName)).filterMap (·.blockBytes?) = texts.map (·.utf8ByteSize) := by
  have hanswers : (cs.map (·.event taskName)).filterMap (·.blockBytes?)
      = (cs.map (·.answer)).filterMap fun a => a.toOption.map (·.utf8ByteSize) := by
    have hevent : (·.blockBytes?) ∘ (·.event taskName) = fun c : Call σ => c.answer.toOption.map (·.utf8ByteSize) :=
      funext (blockBytes?_event taskName)
    rw [List.filterMap_map, List.filterMap_map, hevent]
    rfl
  rw [hanswers, h, List.filterMap_map, ← List.filterMap_eq_map]
  rfl

end Call

namespace Header

/-- **Each call for a list of requests leaves one event**, by induction on the list. -/
theorem events_renderBlocks (b : Backend σ) (taskName : String) :
    ∀ (rs : List BlockRequest) (s : σ) (log : List (Call σ)), ∃ cs,
      (renderBlocks b.noting taskName rs (s, log)).state = ((renderBlocks b taskName rs s).state, log ++ cs) ∧
        (renderBlocks b taskName rs s).events = cs.map (·.event taskName)
  | [], s, log => ⟨[], by simp [renderBlocks], rfl⟩
  | r :: rs, s, log => by
    rcases hcall : b.render r s with ⟨answer, s₁⟩
    cases answer with
    | error e => exact ⟨[⟨r, s, .error e, s₁⟩], by simp [renderBlocks, Backend.noting, hcall],
        by simp [renderBlocks, hcall, Call.event]⟩
    | ok text =>
      obtain ⟨cs, hstate, hevents⟩ := events_renderBlocks b taskName rs s₁ (log ++ [⟨r, s, .ok text, s₁⟩])
      refine ⟨⟨r, s, .ok text, s₁⟩ :: cs, ?_, ?_⟩
      · simpa [renderBlocks, Backend.noting, hcall] using hstate
      · simp only [renderBlocks, hcall, hevents]
        rfl

/-! ## Bytes of headers -/

theorem bytes_join (blocks : List String) :
    (String.join (blocks.map (· ++ "\n"))).utf8ByteSize = blocks.length + (blocks.map (·.utf8ByteSize)).sum := by
  induction blocks with
  | nil => rfl
  | cons block blocks ih =>
    have hfeed : "\n".utf8ByteSize = 1 := by decide
    rw [List.map_cons, String.join_cons, String.utf8ByteSize_append, String.utf8ByteSize_append, hfeed, ih,
      List.map_cons, List.sum_cons, List.length_cons]
    omega

/-- The bytes of a header: the lines before the first block, the blocks, and a line feed after each block but the
last. -/
theorem bytes_ofBlocks (blocks : List String) (last : String) : (ofBlocks (blocks ++ [last])).utf8ByteSize
    = 28 + blocks.length + ((blocks ++ [last]).map (·.utf8ByteSize)).sum := by
  have hpreamble : preamble.utf8ByteSize = 28 := by decide
  rw [ofBlocks_append, String.utf8ByteSize_append, String.utf8ByteSize_append, hpreamble, bytes_join, List.map_append,
    List.sum_append, List.map_singleton, List.sum_singleton]
  omega

/-! ## The trace of a header -/

/-- The trace of a header that is rendered: after the start an event for each request, which is answered by a block, and
then the number of blocks and the bytes of the header, for both of which the events before account. -/
structure Completed (b : Backend σ) (t : Task) (cs : List (Call σ)) (text : String) (events : List Event) : Prop where
  asked : cs.map (·.request) = requests t
  answered : ∀ c ∈ cs, ∃ block, c.answer = .ok block ∧ (c.event t.name).fields = c.request.fields block
  told : events = .renderStarted t.name t.interfaces.length b.name :: cs.map (·.event t.name)
    ++ [.renderCompleted t.name (t.interfaces.length + 1) text.utf8ByteSize]
  blocks : (events.filterMap (·.blockBytes?)).length = t.interfaces.length + 1
  bytes : text.utf8ByteSize = 28 + t.interfaces.length + (events.filterMap (·.blockBytes?)).sum

/-- The trace of a header that is not rendered: after the start an event for each request that is answered by a block,
and then the error of the first that is not. -/
structure Failed (b : Backend σ) (t : Task) (cs : List (Call σ)) (e : RenderError) (events : List Event) : Prop where
  asked : cs.map (·.request) = (requests t).take cs.length
  failed : ∃ done last, cs = done ++ [last] ∧ last.answer = .error e ∧
    (∀ c ∈ done, ∃ block, c.answer = .ok block ∧ (c.event t.name).fields = c.request.fields block) ∧
    events = .renderStarted t.name t.interfaces.length b.name :: done.map (·.event t.name)
      ++ [.blockRenderFailed t.name last.request.interfaceName e]

/-- What the trace of a header says of its outcome. -/
def Traced (b : Backend σ) (t : Task) (cs : List (Call σ)) (events : List Event) : Except RenderError String → Prop
  | .ok text => Completed b t cs text events
  | .error e => Failed b t cs e events

/-- Calls whose answers are blocks tell these. -/
theorem answered_of_map {cs : List (Call σ)} {texts : List String} (h : cs.map (·.answer) = texts.map .ok)
    (taskName : String) :
    ∀ c ∈ cs, ∃ block, c.answer = .ok block ∧ (c.event taskName).fields = c.request.fields block := by
  intro c hc
  have hmem : c.answer ∈ texts.map .ok := h ▸ List.mem_map_of_mem hc
  obtain ⟨block, -, hblock⟩ := List.mem_map.1 hmem
  exact ⟨block, hblock.symm, Call.fields_event_of_ok hblock.symm taskName⟩

variable {b : Backend σ} {t : Task} {cs : List (Call σ)} {texts : List String}

theorem Completed.of_answers (hr : cs.map (·.request) = requests t) (ha : cs.map (·.answer) = texts.map .ok) :
    Completed b t cs (ofBlocks texts) (.renderStarted t.name t.interfaces.length b.name :: cs.map (·.event t.name)
      ++ [.renderCompleted t.name (t.interfaces.length + 1) (ofBlocks texts).utf8ByteSize]) := by
  have hlength : texts.length = t.interfaces.length + 1 := by
    have hasked := congrArg List.length hr
    have hanswered := congrArg List.length ha
    simp only [requests, List.length_map, List.length_append, List.length_singleton] at hasked hanswered
    omega
  have hbytes : ∀ first last : Event, first.blockBytes? = none → last.blockBytes? = none →
      (first :: cs.map (·.event t.name) ++ [last]).filterMap (·.blockBytes?) = texts.map (·.utf8ByteSize) := by
    intro first last hfirst hlast
    rw [List.filterMap_append, List.filterMap_cons_none hfirst, Call.blockBytes_events t.name ha,
      List.filterMap_cons_none hlast]
    exact List.append_nil _
  -- the first event and the last one are about no block
  refine ⟨hr, answered_of_map ha t.name, rfl, ?_, ?_⟩
  · rw [hbytes _ _ rfl rfl, List.length_map, hlength]
  · rw [hbytes _ _ rfl rfl]
    rcases List.eq_nil_or_concat texts with rfl | ⟨blocks, last, rfl⟩
    · cases hlength
    · rw [List.concat_eq_append, List.length_append] at hlength
      rw [List.concat_eq_append, bytes_ofBlocks, Nat.succ.inj hlength]

theorem Failed.of_answers {e : RenderError} (hr : cs.map (·.request) = (requests t).take (texts.length + 1))
    (ha : cs.map (·.answer) = texts.map .ok ++ [.error e]) :
    Failed b t cs e (.renderStarted t.name t.interfaces.length b.name :: cs.map (·.event t.name)) := by
  have hlength : cs.length = texts.length + 1 := by
    simpa using congrArg List.length ha
  obtain ⟨done, rest, rfl, hdone, hrest⟩ := List.map_eq_append_iff.1 ha
  obtain ⟨last, rfl, hlast⟩ := List.map_eq_singleton_iff.1 hrest
  refine ⟨by rw [hr, hlength], done, last, rfl, hlast, answered_of_map hdone t.name, ?_⟩
  rw [List.map_append, List.map_singleton, Call.event_of_error hlast]
  rfl

/-- **The trace of a header accounts for every block and every byte**, or ends with the error that is the outcome. -/
theorem render_traced (b : Backend σ) (t : Task) (s : σ) :
    (∀ entry ∈ log (render b t s), entry.span = ["render"]) ∧
      ∃ cs, (render b.noting t (s, [])).state = ((render b t s).state, cs) ∧ Calls b s cs (render b t s).state ∧
        Traced b t cs ((log (render b t s)).map (·.event)) (render b t s).outcome := by
  obtain ⟨cs, hstate, -, hcalls, hfinished⟩ := renderBlocks_calls b t.name (requests t) s []
  obtain ⟨cs', hstate', hevents⟩ := events_renderBlocks b t.name (requests t) s []
  -- both lemmas tell of the calls noted, so they tell of the same calls
  obtain rfl : cs = cs' := (Prod.mk.inj (hstate.symm.trans hstate')).2
  have hlog : (log (render b t s)).map (·.event) = (render b t s).events := by
    rw [log, List.map_map]
    exact List.map_id _
  refine ⟨?_, cs, ?_, ?_, ?_⟩
  · rw [log, List.forall_mem_map]
    exact fun _ _ => rfl
  · rw [render_state, render_state, hstate, List.nil_append]
  · rw [render_state]
    exact hcalls
  · rw [hlog]
    cases hblocks : (renderBlocks b t.name (requests t) s).outcome with
    | error e =>
      rw [hblocks] at hfinished
      obtain ⟨texts, hr, ha⟩ := hfinished
      have hrender : render b t s = ⟨.error e, (renderBlocks b t.name (requests t) s).state,
          .renderStarted t.name t.interfaces.length b.name :: cs.map (·.event t.name)⟩ := by
        simp only [render, hblocks, hevents]
      rw [hrender]
      exact .of_answers hr ha
    | ok texts =>
      rw [hblocks] at hfinished
      obtain ⟨hr, ha⟩ := hfinished
      have hrender : render b t s = ⟨.ok (ofBlocks texts), (renderBlocks b t.name (requests t) s).state,
          .renderStarted t.name t.interfaces.length b.name :: cs.map (·.event t.name)
            ++ [.renderCompleted t.name (t.interfaces.length + 1) (ofBlocks texts).utf8ByteSize]⟩ := by
        simp only [render, hblocks, hevents]
      rw [hrender]
      exact .of_answers hr ha

/-- A task with two interfaces, one of them with a name of one letter and two bytes. -/
def tracedSample : Task :=
  { name := "t"
    interfaces := [{ name := "a", functions := [{ name := "f" }] }, { name := "é", callbacks := [{ name := "g" }] }]
    driver := { functions := [{ name := "h" }] } }

/-- The whole header has 28 + 2 + (54 + 55 + 55) bytes; a header whose second block is refused ends there. -/
theorem render_traced_samples :
    (∃ cs text, Completed Recorder.backend tracedSample cs text
        [.renderStarted "t" 2 "recording", .blockRendered (some "a") true 1 0 54, .blockRendered (some "é") true 0 1 55,
          .blockRendered none false 0 1 55, .renderCompleted "t" 3 194]) ∧
      (∃ cs, Failed Recorder.backend tracedSample cs (.backend "recording" "refusing to render 'é'")
        [.renderStarted "t" 2 "recording", .blockRendered (some "a") true 1 0 54,
          .blockRenderFailed "t" (some "é") (.backend "recording" "refusing to render 'é'")]) ∧
      ∃ entry ∈ log (render Recorder.backend tracedSample {}), entry.span = ["render"] := by
  obtain ⟨hspan, cs, -, -, htraced⟩ := render_traced Recorder.backend tracedSample {}
  obtain ⟨-, cs', -, -, htraced'⟩ := render_traced Recorder.backend tracedSample { failOn := some "é" }
  have hevents : (log (render Recorder.backend tracedSample {})).map (·.event) =
      [.renderStarted "t" 2 "recording", .blockRendered (some "a") true 1 0 54, .blockRendered (some "é") true 0 1 55,
        .blockRendered none false 0 1 55, .renderCompleted "t" 3 194] := by
    decide +kernel
  have hevents' : (log (render Recorder.backend tracedSample { failOn := some "é" })).map (·.event) =
      [.renderStarted "t" 2 "recording", .blockRendered (some "a") true 1 0 54,
        .blockRenderFailed "t" (some "é") (.backend "recording" "refusing to render 'é'")] := by
    decide +kernel
  obtain ⟨text, houtcome⟩ : ∃ text, (render Recorder.backend tracedSample {}).outcome = .ok text := ⟨_, rfl⟩
  have houtcome' : (render Recorder.backend tracedSample { failOn := some "é" }).outcome
      = .error (.backend "recording" "refusing to render 'é'") := rfl
  rw [hevents, houtcome] at htraced
  rw [hevents', houtcome'] at htraced'
  exact ⟨⟨cs, text, htraced⟩, ⟨cs', htraced'⟩, _, List.mem_cons_self, hspan _ List.mem_cons_self⟩

end Header

end TaskHeader
