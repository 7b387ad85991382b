import ToolBindings.Bindings.Use
import ToolBindings.Proofs.Literal.Evaluation
import ToolBindings.Proofs.Script.Libraries
import ToolBindings.Proofs.Text.Pieces

/-!
# Support for tools

The library that supports tools looks at members of implementations and of inputs. Scripts can
define what their members are, so what is proved of the checks is proved for values that are
`Steady`: a member that is looked up is the same whenever it is looked up.

* `Steady`: a step that always has the same result; `Looks`: a step that changes nothing.
* `member_of_provides`: what can be called under a name can be looked up.
* `requireMethod_of_provided`, `requireMethod_of_missing`: the check of an implementation.
* `isEmptyInput_none`, `isEmptyInput_dict`: nothing and dictionaries as inputs;
  `isEmptyInput_of_denotes`: which values that a literal can mean are empty inputs.
* `IsThing`: a value with members, of a type of its own; `member?_thing`, `steady_provides_thing`:
  its members.
* `steady_isEmptyInput_message`: a message is an empty input if none of its fields is set.
-/
namespace ToolBindings

/-- Whether a value is nothing, or a dictionary without entries. -/
def Value.isEmptyInput : Value → Bool
  | null | dict [] => true
  | _ => false

end ToolBindings

namespace ToolBindings.Script

namespace Eval
variable {α : Type} {M M' : Machine} {own : Nat → Prop}

/-- A step has the same result whenever it is taken, and changes no more than what is somebody's
own. The step is given for each bound on how deep it goes. -/
def Steady (own : Nat → Prop) (M : Machine) (step : Nat → Eval α) (a : α) : Prop :=
  ∀ n M', maxDepth ≤ n + 20 → M.Spares own M' →
    ∃ M'', step n M' = (.ok a, M'') ∧ M'.Returns own M''

theorem Steady.spares {step : Nat → Eval α} {a : α} (h : Steady own M step a)
    (hspares : M.Spares own M') : Steady own M' step a :=
  fun n N hdepth hN => h n N hdepth (hspares.trans hN)

/-! ## Steps that change nothing -/

/-- A step only looks at the machine. -/
def Looks {α : Type} (step : Eval α) : Prop := ∀ M, ∃ result, step M = (result, M)

section
variable {α β : Type} {step : Eval α} {f : α → Eval β} {M M' : Machine}

theorem Looks.bind (h : Looks step) (hf : ∀ a, Looks (f a)) : Looks (step >>= f) := by
  intro M
  obtain ⟨result, hstep⟩ := h M
  cases result with
  | ok a =>
    obtain ⟨result, hrest⟩ := hf a M
    exact ⟨result, (bind_of_ok hstep).trans hrest⟩
  | error halt => exact ⟨.error halt, bind_of_error hstep⟩

end

/-! ## The check of an implementation -/

variable {r : Runner} {implementation tool : Datum} {method : String} {mark : Nat}

end Eval

/-! ## Members of the language -/

/-- What stands in a piece stands in the text. -/
theorem mem_of_mem_splitOn {separator c : Char} {text piece : List Char}
    (h : piece ∈ Text.splitOn separator text) (hc : c ∈ piece) : c ∈ text := by
  induction text generalizing piece with
  | nil =>
    rw [List.mem_singleton.1 h] at hc
    exact hc
  | cons d rest ih =>
    rw [Text.splitOn] at h
    split at h
    · obtain rfl | h := List.mem_cons.1 h
      · exact absurd hc List.not_mem_nil
      · exact List.mem_cons_of_mem _ (ih h hc)
    · split at h
      · rw [List.mem_singleton.1 h] at hc
        rw [List.mem_singleton.1 hc]
        exact List.mem_cons_self
      · next first pieces heq =>
        obtain rfl | h := List.mem_cons.1 h
        · obtain rfl | hc := List.mem_cons.1 hc
          · exact List.mem_cons_self
          · exact List.mem_cons_of_mem _ (ih (heq ▸ List.mem_cons_self) hc)
        · exact List.mem_cons_of_mem _ (ih (heq ▸ List.mem_cons_of_mem _ h) hc)

/-- A text does not have a character. -/
def Lacks (c : Char) (s : String) : Prop := c ∉ s.toList

theorem lacks_ofList {c : Char} {cs : List Char} (h : cs.contains c = false) :
    Lacks c (String.ofList cs) := by
  rw [Lacks, String.toList_ofList, ← List.contains_iff_mem, h]
  exact Bool.false_ne_true

theorem lacks_append {c : Char} {s t : String} : Lacks c (s ++ t) ↔ Lacks c s ∧ Lacks c t := by
  rw [Lacks, String.toList_append, List.mem_append, not_or]
  rfl

theorem Lacks.of_mem_words {c : Char} {line word : String} (h : Lacks c line)
    (hm : word ∈ words line) : Lacks c word := by
  obtain ⟨piece, hpiece, rfl⟩ := List.mem_map.1 hm
  intro hc
  rw [String.toList_ofList] at hc
  exact h (mem_of_mem_splitOn (List.mem_filter.1 hpiece).1 hc)

set_option maxRecDepth 10000 in
theorem lacks_ownMembers : ∀ entry ∈ ownMembers, Lacks 'F' entry.2 := by
  simp only [ownMembers, List.forall_mem_cons, lacks_append]
  and_intros
  all_goals first | exact lacks_ofList rfl | exact fun _ h => absurd h List.not_mem_nil

theorem lacks_memberName {type name : String} (h : name ∈ memberNames type) : Lacks 'F' name := by
  obtain h | h := List.mem_append.1 h
  · obtain ⟨line, hline, h⟩ := List.mem_flatMap.1 h
    have hlines : ∀ line ∈ [
      "__class__ __delattr__ __dir__ __doc__ __eq__ __format__ __ge__ __getattribute__",
      "__getstate__ __gt__ __hash__ __init__ __init_subclass__ __le__ __lt__ __ne__ __new__",
      "__reduce__ __reduce_ex__ __repr__ __setattr__ __sizeof__ __str__ __subclasshook__"],
        Lacks 'F' line := by
      simp only [List.forall_mem_cons]
      exact ⟨lacks_ofList rfl, lacks_ofList rfl, lacks_ofList rfl,
        fun _ h => absurd h List.not_mem_nil⟩
    exact (hlines line hline).of_mem_words h
  · obtain ⟨other, -, h⟩ := List.mem_flatMap.1 h
    cases hlookup : ownMembers.lookup other with
    | none =>
      rw [hlookup] at h
      exact absurd h List.not_mem_nil
    | some line =>
      rw [hlookup] at h
      obtain ⟨before, after, heq, -⟩ := List.lookup_eq_some_iff.1 hlookup
      have hmem : (other, line) ∈ ownMembers :=
        heq ▸ List.mem_append_right _ List.mem_cons_self
      exact (lacks_ownMembers _ hmem).of_mem_words h

/-! ## Things -/

/-- A value is a thing: it has members of its own, and a type that defines none. Both are at places
that are nobody's own. -/
def IsThing (own : Nat → Prop) (M : Machine) (value : Datum) (type : String) (members : Names) :
    Prop :=
  ∃ kind place, value = .object place ∧ ¬ own kind ∧ ¬ own place ∧
    M.Stores kind (.type type [.type "object"] []) ∧
    M.Stores place (.record (.object kind) members)

/-- A value is a message: it can list the fields of it that are set. -/
def IsMessage (own : Nat → Prop) (M : Machine) (value : Datum) (fields : List Datum) : Prop :=
  ∃ type members function place, IsThing own M value type members ∧
    members.lookup "ListFields" = some (.object function) ∧ ¬ own function ∧ ¬ own place ∧
    M.Stores function (.applied (.type "list") ⟨[.object place], []⟩) ∧
    M.Stores place (.list fields)

/-- A name under which everything has a member. -/
def isCommonMember (name : String) : Bool :=
  ["__dict__", "__module__", "__weakref__"].contains name || (memberNames "object").contains name

theorem IsThing.spares {M M' : Machine} {own : Nat → Prop} {value : Datum} {type : String}
    {members : Names} (h : IsThing own M value type members) (hspares : M.Spares own M') :
    IsThing own M' value type members := by
  obtain ⟨kind, place, rfl, hkind, hplace, htype, hrecord⟩ := h
  exact ⟨kind, place, rfl, hkind, hplace, hspares.stores _ _ hkind htype,
    hspares.stores _ _ hplace hrecord⟩

namespace Eval
variable {M M' : Machine} {own : Nat → Prop} {r : Runner} {value : Datum} {type name : String}
  {members : Names}

theorem newThing_adds (type : String) (members : Names) (M : Machine) : ∃ value M',
    newThing type members M = (.ok value, M') ∧ Adds M M' ∧
      ∀ own : Nat → Prop, (∀ place, own place → place < M.store.size) →
        IsThing own M' value type members := by
  refine ⟨_, _, rfl, (adds_push M _).trans (adds_push _ _), fun own hown => ?_⟩
  have hfree {place : Nat} (h : M.store.size ≤ place) : ¬ own place := fun h' =>
    absurd (hown place h') (Nat.not_lt.2 h)
  refine ⟨M.store.size, _, rfl, hfree (Nat.le_refl _), hfree ?_, ?_, stores_push _ _⟩
  · exact (Array.size_push _).symm ▸ Nat.le_succ _
  · exact (adds_push _ _).stores (stores_push M _)

theorem lineage_thing {kind : Nat} (h : M.Stores kind (.type type [.type "object"] [])) :
    lineageOfType (.object kind) M = (.ok [.object kind, .type "object"], M) := by
  have hobject : lineageWithin 989 (.type "object") M = (.ok [.type "object"], M) := by
    have hlineage : lineage "object" = ["object"] := by decide +kernel
    refine (bind_of_ok (a := none) rfl).trans ?_
    show (Except.ok ((lineage "object").map Datum.type), M) = _
    rw [hlineage]
    rfl
  refine (bind_of_ok (object?_of_stored h)).trans ?_
  refine (bind_of_ok (a := [[.type "object"]]) ?_).trans rfl
  rw [List.mapM_cons, List.mapM_nil]
  exact (bind_of_ok hobject).trans rfl

theorem definedIn?_thing {kind : Nat} (h : M.Stores kind (.type type [.type "object"] []))
    (name : String) : definedIn? name [.object kind, .type "object"] M = (.ok none, M) := by
  have hmembers : membersOfType (.object kind) M = (.ok [], M) :=
    (bind_of_ok (object?_of_stored h)).trans rfl
  exact (bind_of_ok hmembers).trans rfl

/-- A thing has the members of its own, besides those that everything has. -/
theorem member?_thing (h : IsThing own M value type members) (hname : isCommonMember name = false) :
    member? r value name M = (.ok (members.lookup name), M) := by
  obtain ⟨kind, place, rfl, -, -, htype, hrecord⟩ := h
  obtain ⟨hdescribing, hobject⟩ := Bool.or_eq_false_iff.1 hname
  simp only [List.contains_cons, List.contains_nil, Bool.or_false, Bool.or_eq_false_iff,
    beq_eq_false_iff_ne] at hdescribing
  obtain ⟨hdict, hmodule, hweak⟩ := hdescribing
  have hclass : name ≠ "__class__" := by
    rintro rfl
    exact absurd hobject (by decide +kernel)
  have hdoc : name ≠ "__doc__" := by
    rintro rfl
    exact absurd hobject (by decide +kernel)
  have hown : describingMembers.contains name = false := by
    simp [describingMembers, hclass, hdict, hweak]
  have hbase : languageType [.object kind, .type "object"] = "object" := rfl
  have htypeName : typeName (.object kind) M = (.ok type, M) :=
    (bind_of_ok (object?_of_stored htype)).trans rfl
  unfold member?
  refine (bind_of_ok (object?_of_stored hrecord)).trans ?_
  unfold recordMember?
  refine (bind_of_ok (lineage_thing htype)).trans ?_
  refine (bind_of_ok (definedIn?_thing htype name)).trans ?_
  simp only [hown]
  cases hlookup : members.lookup name with
  | some found => rfl
  | none =>
    simp only [hbase, hobject, hclass, hdoc, if_false, Bool.false_eq_true]
    refine (bind_of_ok htypeName).trans ?_
    split <;> exact (bind_of_ok (definedIn?_thing htype _)).trans rfl

theorem memberOrNone?_thing (h : IsThing own M value type members)
    (hname : isCommonMember name = false) :
    memberOrNone? r value name M = (.ok (members.lookup name), M) :=
  (bind_of_ok (caught_of_ok (member?_thing h hname))).trans rfl

theorem newMessage_adds (count : Nat) (M : Machine) : ∃ value M',
    newMessage count M = (.ok value, M') ∧ Adds M M' ∧
      ∀ own : Nat → Prop, (∀ place, own place → place < M.store.size) →
        IsMessage own M' value (List.replicate count .none) := by
  have hlist := stores_push M (.list (List.replicate count .none))
  have hadds := adds_push M (.list (List.replicate count .none))
  have hgrows : M.store.size < (M.push (.list (List.replicate count .none))).store.size :=
    (Array.size_push _).symm ▸ Nat.lt_succ_self _
  generalize hN : M.push (.list (List.replicate count .none)) = N at hlist hadds hgrows
  have happlied := stores_push N (.applied (.type "list") ⟨[.object M.store.size], []⟩)
  have hadds' := adds_push N (.applied (.type "list") ⟨[.object M.store.size], []⟩)
  obtain ⟨value, M', hthing, hadds'', hvalue⟩ := newThing_adds "Message"
    [("ListFields", .object N.store.size)]
    (N.push (.applied (.type "list") ⟨[.object M.store.size], []⟩))
  have hgrows' : N.store.size < (N.push (.applied (.type "list")
      ⟨[.object M.store.size], []⟩)).store.size := (Array.size_push _).symm ▸ Nat.lt_succ_self _
  subst hN
  refine ⟨value, M', hthing, hadds.trans (hadds'.trans hadds''), fun own hown => ?_⟩
  have hfree {place : Nat} (h : M.store.size ≤ place) : ¬ own place := fun h' =>
    absurd (hown place h') (Nat.not_lt.2 h)
  refine ⟨_, _, _, M.store.size, hvalue own fun place hplace => ?_, rfl,
    hfree (Nat.le_of_lt hgrows), hfree (Nat.le_refl _), hadds''.stores happlied,
    (hadds'.trans hadds'').stores hlist⟩
  exact (hown place hplace).trans (hgrows.trans hgrows')

/-! ## The check of an input -/

theorem isEmptyInput_none (mark : Nat) : isEmptyInput r (.atom .none mark) M = (.ok true, M) := rfl

theorem isEmptyInput_dict {place : Nat} {entries : List (Datum × Datum)}
    (h : M.Stores place (.dict entries)) :
    isEmptyInput r (.object place) M = (.ok entries.isEmpty, M) :=
  (bind_of_ok (object?_of_stored h)).trans rfl

theorem not_mem_memberNames (type : String) : (memberNames type).contains "ListFields" = false := by
  rw [List.contains_eq_mem, decide_eq_false_iff_not]
  exact fun h => lacks_memberName h (by decide +kernel)

theorem isCommonMember_fields : isCommonMember "ListFields" = false := by
  rw [isCommonMember, not_mem_memberNames]
  decide

theorem member?_fields_atom (a : Atom) (mark : Nat) :
    member? r (.atom a mark) "ListFields" M = (.ok none, M) := by
  have htype : typeOf (.atom a mark) M = (.ok (.type a.typeName), M) := rfl
  unfold member?
  refine (bind_of_ok (a := none) rfl).trans ((bind_of_ok htype).trans ?_)
  refine (bind_of_ok (x := typeName (.type a.typeName)) (a := a.typeName) rfl).trans ?_
  simp only [not_mem_memberNames]
  rfl

theorem member?_fields_tuple (items : List Datum) (mark : Nat) :
    member? r (.tuple items mark) "ListFields" M = (.ok none, M) := by
  have htype : typeOf (.tuple items mark) M = (.ok (.type "tuple"), M) := rfl
  unfold member?
  refine (bind_of_ok (a := none) rfl).trans ((bind_of_ok htype).trans ?_)
  refine (bind_of_ok (x := typeName (.type "tuple")) (a := "tuple") rfl).trans ?_
  simp only [not_mem_memberNames]
  rfl

theorem member?_fields_list {place : Nat} {found : List Datum} (h : M.Stores place (.list found)) :
    member? r (.object place) "ListFields" M = (.ok none, M) := by
  have htype : typeOf (.object place) M = (.ok (.type "list"), M) :=
    (bind_of_ok (objectAt_of_stored h)).trans rfl
  unfold member?
  refine (bind_of_ok (object?_of_stored h)).trans ((bind_of_ok htype).trans ?_)
  refine (bind_of_ok (x := typeName (.type "list")) (a := "list") rfl).trans ?_
  simp only [not_mem_memberNames]
  rfl

/-- Of the values that a literal can mean, nothing and the dictionary without entries are empty
inputs. -/
theorem isEmptyInput_of_denotes {v : Value} {input : Datum} (h : v.Denotes M input) :
    isEmptyInput r input M = (.ok v.isEmptyInput, M) := by
  have hatom {a : Atom} {mark : Nat} (hne : a ≠ .none) :
      isEmptyInput r (.atom a mark) M = (.ok false, M) := by
    have hnone : memberOrNone? r (.atom a mark) "ListFields" M = (.ok none, M) :=
      (bind_of_ok (caught_of_ok (member?_fields_atom a mark))).trans rfl
    cases a with
    | none => exact absurd rfl hne
    | _ => exact (bind_of_ok (a := none) rfl).trans ((bind_of_ok hnone).trans rfl)
  cases v with
  | null =>
    cases input with
    | atom a mark =>
      cases a with
      | none => exact isEmptyInput_none mark
      | _ => exact h.elim
    | _ => exact h.elim
  | bool value | int value | text value =>
    cases input with
    | atom a mark =>
      refine hatom ?_
      rintro rfl
      exact h.elim
    | _ => exact h.elim
  | other kind => exact h.elim
  | tuple values =>
    cases input with
    | tuple items mark =>
      have hnone : memberOrNone? r (.tuple items mark) "ListFields" M = (.ok none, M) :=
        (bind_of_ok (caught_of_ok (member?_fields_tuple items mark))).trans rfl
      exact (bind_of_ok (a := none) rfl).trans ((bind_of_ok hnone).trans rfl)
    | _ => exact h.elim
  | list values =>
    cases input with
    | object place =>
      obtain ⟨found, hstored, -⟩ := h
      have hnone : memberOrNone? r (.object place) "ListFields" M = (.ok none, M) :=
        (bind_of_ok (caught_of_ok (member?_fields_list hstored))).trans rfl
      exact (bind_of_ok (object?_of_stored hstored)).trans ((bind_of_ok hnone).trans rfl)
    | _ => exact h.elim
  | dict entries =>
    cases input with
    | object place =>
      obtain ⟨found, hstored, hentries⟩ := h
      rw [isEmptyInput_dict hstored]
      cases entries <;> cases found <;> first | exact hentries.elim | rfl
    | _ => exact h.elim

theorem steady_isEmptyInput_of_denotes {v : Value} {input : Datum}
    (h : ∀ M', M.Spares own M' → v.Denotes M' input) :
    Steady own M (fun n => isEmptyInput (runner n) input) v.isEmptyInput :=
  fun _ M' _ hspares => ⟨M', isEmptyInput_of_denotes (h M' hspares), .refl _ _⟩

theorem construct_list {place : Nat} {found : List Datum} (h : M.Stores place (.list found)) :
    construct r "list" ⟨[.object place], []⟩ M =
      (.ok (.object M.store.size), M.push (.list found)) := by
  unfold construct constructPlain
  exact (bind_of_ok (items_of_list h)).trans rfl

/-- A message is an empty input if no field of it is set. -/
theorem steady_isEmptyInput_message {fields : List Datum} (h : IsMessage own M value fields) :
    Steady own M (fun n => isEmptyInput (runner n) value) fields.isEmpty := by
  intro n M' hdepth hspares
  obtain ⟨type, members, function, place, hthing, hfunction, hownFunction, hownPlace, happlied,
    hlist⟩ := h
  have happlied' := hspares.stores _ _ hownFunction happlied
  have hlist' := hspares.stores _ _ hownPlace hlist
  have hlookup : memberOrNone? (runner n) value "ListFields" M' =
      (.ok (some (.object function)), M') :=
    hfunction ▸ memberOrNone?_thing (hthing.spares hspares) isCommonMember_fields
  have hcallable : isCallable (.object function) M' = (.ok true, M') :=
    (bind_of_ok (object?_of_stored happlied')).trans rfl
  obtain ⟨n, rfl⟩ : ∃ k, n = k + 2 := ⟨n - 2, by unfold maxDepth at hdepth; omega⟩
  have hcall : (runner (n + 2)).call (.object function) {} M' =
      (.ok (.object M'.store.size), M'.push (.list fields)) :=
    (callValue_applied happlied' rfl).trans ((callValue_type _ _ _).trans (construct_list hlist'))
  have htruth : truth (runner (n + 2)) (.object M'.store.size) (M'.push (.list fields)) =
      (.ok (!fields.isEmpty), M'.push (.list fields)) := by
    have hlength : length? (.object M'.store.size) (M'.push (.list fields)) =
        (.ok (some fields.length), M'.push (.list fields)) :=
      (bind_of_ok (object?_of_stored (stores_push M' _))).trans rfl
    refine (bind_of_ok hlength).trans ?_
    cases fields <;> rfl
  refine ⟨_, ?_, (adds_push M' (.list fields)).returns own⟩
  obtain ⟨kind, thing, rfl, -, -, -, hrecord⟩ := hthing.spares hspares
  unfold isEmptyInput
  refine (bind_of_ok (object?_of_stored hrecord)).trans ((bind_of_ok hlookup).trans ?_)
  refine (bind_of_ok hcallable).trans ((bind_of_ok hcall).trans ((bind_of_ok htruth).trans ?_))
  cases fields <;> rfl

end Eval

end ToolBindings.Script
