import ToolBindings.Proofs.Journal.Success

/-!
# What a computation reports

A computation that succeeds has reported what its parts report, one after the other. Of one that
fails less is known; that none of its parts reports an error is enough to say that it reports none.

* `events_bind_of_ok`, `events_map`, `events_mapM`: the events of computations that succeed.
* `Quiet`: no error is reported; `quiet_bind`, `quiet_mapM`: by parts that report none.
* `Event.text`, `Event.line_eq_text`: every character of the line of an event.
* `Event.texts`, `Event.log_eq`: a log has the texts of the events that reach its threshold.
* `Event.filter_reaches_of_le`: what a higher threshold leaves out.
-/
namespace ToolBindings

namespace Logged

variable {α β : Type}

theorem events_bind_of_ok {x : Logged α} {a : α} (h : x.result = .ok a) (f : α → Logged β) :
    (x >>= f).events = x.events ++ (f a).events := by
  rw [events_bind, h]

theorem events_map (f : α → β) (x : Logged α) : (f <$> x).events = x.events := by
  obtain ⟨events, result⟩ := x
  cases result with
  | error e => rfl
  | ok a => exact List.append_nil events

/-- Items are reported on in their order. -/
theorem events_mapM {f : α → Logged β} {xs : List α} {ys : List β}
    (h : (xs.mapM f).result = .ok ys) : (xs.mapM f).events = xs.flatMap fun x => (f x).events := by
  induction xs generalizing ys with
  | nil => rfl
  | cons x xs ih =>
    simp only [List.mapM_cons, result_bind, bind_eq_ok] at h ⊢
    obtain ⟨y, hy, others, hothers, -⟩ := h
    rw [events_bind_of_ok hy, events_bind_of_ok hothers, ih hothers, events_pure, List.append_nil,
      List.flatMap_cons]

/-! ## No errors -/

/-- A computation that reports no error. -/
def Quiet (x : Logged α) : Prop := ∀ event ∈ x.events, event.severity ≠ .error

theorem quiet_pure (a : α) : Quiet (pure a) := nofun

theorem quiet_ofExcept (result : Except Failure α) : Quiet (ofExcept result) := nofun

theorem quiet_fail (failure : Failure) : Quiet (fail failure : Logged α) := nofun

theorem quiet_report {event : Event} (h : event.severity ≠ .error) : Quiet (report event) :=
  List.forall_mem_singleton.2 h

theorem quiet_bind {x : Logged α} {f : α → Logged β} (hx : Quiet x)
    (hf : ∀ a, x.result = .ok a → Quiet (f a)) : Quiet (x >>= f) := by
  unfold Quiet
  rw [events_bind, List.forall_mem_append]
  refine ⟨hx, ?_⟩
  cases h : x.result with
  | error e => exact nofun
  | ok a => exact hf a h

theorem quiet_map {x : Logged α} {f : α → β} (hx : Quiet x) : Quiet (f <$> x) := by
  unfold Quiet
  rw [events_map]
  exact hx

theorem quiet_mapM {f : α → Logged β} (hf : ∀ a, Quiet (f a)) (xs : List α) :
    Quiet (xs.mapM f) := by
  induction xs with
  | nil => exact quiet_pure []
  | cons x xs ih =>
    rw [List.mapM_cons]
    exact quiet_bind (hf x) fun _ _ => quiet_bind ih fun _ _ => quiet_pure _

end Logged

/-! ## Logs -/

namespace Event

open Text (decimalDigits_eq_toDigits)

/-- What stands in the log for an event, with every character. The number of tools is in decimal
notation. -/
def text : Event → String
  | fileSkipped file =>
    "protoc-gen-tools: DEBUG protoc_gen_tools.plugin: Skipping " ++ file ++ ": no services\n"
  | methodSkipped owner =>
    "protoc-gen-tools: DEBUG protoc_gen_tools.extractor: Skipping " ++ owner ++
      ": no tool annotation\n"
  | referenceTruncated type =>
    "protoc-gen-tools: DEBUG protoc_gen_tools.schema_builder: Truncating recursive reference to " ++
      type ++ "\n"
  | generated path tools =>
    "protoc-gen-tools: INFO protoc_gen_tools.plugin: Generated " ++ path ++ " (" ++
      toString tools ++ " tools)\n"
  | refused message =>
    "protoc-gen-tools: ERROR protoc_gen_tools.plugin: Generation failed: " ++ message ++ "\n"

/-- The header of a line and the parts of its message make up the text of the event. -/
theorem line_eq_text (event : Event) : event.line = event.text := by
  cases event with
  | fileSkipped file =>
    show "protoc-gen-tools: " ++ "DEBUG" ++ " " ++ "protoc_gen_tools.plugin" ++ ": " ++
      ("Skipping " ++ file ++ ": no services") ++ "\n" =
        "protoc-gen-tools: DEBUG protoc_gen_tools.plugin: Skipping " ++ file ++ ": no services\n"
    simp only [← String.append_assoc, String.reduceAppend]
    simp only [String.append_assoc, String.reduceAppend]
  | methodSkipped owner =>
    show "protoc-gen-tools: " ++ "DEBUG" ++ " " ++ "protoc_gen_tools.extractor" ++ ": " ++
      ("Skipping " ++ owner ++ ": no tool annotation") ++ "\n" =
        "protoc-gen-tools: DEBUG protoc_gen_tools.extractor: Skipping " ++ owner ++
          ": no tool annotation\n"
    simp only [← String.append_assoc, String.reduceAppend]
    simp only [String.append_assoc, String.reduceAppend]
  | referenceTruncated type =>
    show "protoc-gen-tools: " ++ "DEBUG" ++ " " ++ "protoc_gen_tools.schema_builder" ++ ": " ++
      ("Truncating recursive reference to " ++ type) ++ "\n" =
        "protoc-gen-tools: DEBUG protoc_gen_tools.schema_builder: " ++
          "Truncating recursive reference to " ++ type ++ "\n"
    simp only [← String.append_assoc, String.reduceAppend]
  | generated path tools =>
    show "protoc-gen-tools: " ++ "INFO" ++ " " ++ "protoc_gen_tools.plugin" ++ ": " ++
      ("Generated " ++ path ++ " (" ++ String.ofList (Text.decimalDigits tools) ++ " tools)") ++
        "\n" =
        "protoc-gen-tools: INFO protoc_gen_tools.plugin: Generated " ++ path ++ " (" ++
          toString tools ++ " tools)\n"
    rw [decimalDigits_eq_toDigits, ← Nat.toString_eq_ofList_toDigits]
    simp only [← String.append_assoc, String.reduceAppend]
    simp only [String.append_assoc, String.reduceAppend]
  | refused message =>
    show "protoc-gen-tools: " ++ "ERROR" ++ " " ++ "protoc_gen_tools.plugin" ++ ": " ++
      ("Generation failed: " ++ message) ++ "\n" =
        "protoc-gen-tools: ERROR protoc_gen_tools.plugin: Generation failed: " ++ message ++ "\n"
    simp only [← String.append_assoc, String.reduceAppend]

def texts (events : List Event) : String := String.join (events.map text)

def reaches (threshold : Nat) (event : Event) : Bool := threshold ≤ event.severity.rank

theorem log_eq (threshold : Nat) (events : List Event) :
    log threshold events = texts (events.filter (reaches threshold)) := by
  rw [log, texts, List.map_congr_left fun event _ => line_eq_text event]
  rfl

/-- Every event reaches the lowest level. -/
theorem filter_reaches_of_le_debug {threshold : Nat} (h : threshold ≤ Severity.debug.rank)
    (events : List Event) : events.filter (reaches threshold) = events := by
  have hall : ∀ severity : Severity, Severity.debug.rank ≤ severity.rank := by
    intro severity
    cases severity <;> decide
  exact List.filter_eq_self.2 fun event _ => decide_eq_true (Nat.le_trans h (hall event.severity))

/-- A higher threshold leaves out more, and nothing that reaches it. -/
theorem filter_reaches_of_le {lower upper : Nat} (h : lower ≤ upper) (events : List Event) :
    events.filter (reaches upper) = (events.filter (reaches lower)).filter (reaches upper) := by
  rw [List.filter_filter]
  refine List.filter_congr fun event _ => ?_
  unfold reaches
  by_cases hu : upper ≤ event.severity.rank
  · simp only [hu, Nat.le_trans h hu, decide_true, Bool.and_self]
  · simp only [hu, decide_false, Bool.false_and]

end Event

end ToolBindings
