import Mathlib.Data.List.Induction
import Mathlib.Data.List.Lex
import Mathlib.Data.List.Nodup
import ToolBindings.Proofs.Entries
import ToolBindings.Descriptor.TypeIndex

/-!
# What the index of types holds

A message has a place: the number of its file, and the numbers on the way down to it, from the
outermost message to itself. The lexicographic order of places is the order of a walk that takes the
files one by one, and each message before the messages inside it.

* `Message.way?`, `Message.fullName`: the messages on the way down to a place, and the name that
  they make up.
* `Declares`: the messages of some files with their places and full names.
* `IsLast`, `isLast_flatMap`: the last of the things at places, and how it is found in a list.
* `isLast_namedAll`, `isLast_ofFiles`: looking a name up finds the last message of this name.
* `HasDistinctNames`, `hasDistinctNames_of_nodup`: files in which no full name stands at two places.
-/
namespace ToolBindings

/-! ## Places -/

/-- The messages on the way down to a place, from the outermost to the innermost, if there are such
messages. -/
def Message.way? : List Message → List Nat → Option (List Message)
  | _, [] => some []
  | messages, number :: place =>
    match messages[number]? with
    | none => none
    | some message => (Message.way? message.nested place).map (message :: ·)

/-- The full name that messages on a way down make up: the scope, then a dot and the name for
each. -/
def Message.fullName (scope : String) (way : List Message) : String :=
  way.foldl (fun name message => name ++ "." ++ message.name) scope

/-- A message stands at a place among some messages and those inside them, and has a full name. -/
def Message.StandsAt (scope : String) (messages : List Message) (place : List Nat)
    (fullName : String) (message : Message) : Prop :=
  ∃ way, Message.way? messages place = some way ∧ way.getLast? = some message ∧
    fullName = Message.fullName scope way

/-- A message is another one or stands inside it, and has a full name. -/
def Message.StandsWithin (scope fullName : String) (outer : Message) (inner : List Nat)
    (message : Message) : Prop :=
  (inner = [] ∧ fullName = scope ++ "." ++ outer.name ∧ message = outer) ∨
    Message.StandsAt (scope ++ "." ++ outer.name) outer.nested inner fullName message

/-- A message stands at a place in some files, and has a full name, which begins with a dot and the
package if the file has one. -/
def Declares (files : List File) (place : List Nat) (fullName : String) (message : Message) :
    Prop :=
  ∃ number file inner, place = number :: inner ∧ files[number]? = some file ∧
    Message.StandsAt (if file.package = "" then "" else "." ++ file.package) file.messages inner
      fullName message

/-- No two places have the same full name. -/
def HasDistinctNames (files : List File) : Prop :=
  ∀ place place' fullName message message', Declares files place fullName message →
    Declares files place' fullName message' → place = place'

/-- The last of the things at some places, if there are any. -/
def IsLast {α : Type} (At : List Nat → α → Prop) : Option α → Prop
  | none => ∀ place a, ¬At place a
  | some a => ∃ place, At place a ∧ ∀ place' a', At place' a' → place' ≤ place

/-! ## The last of several things -/

section
variable {α β : Type} {At At' : List Nat → α → Prop} {last last' : Option α}

theorem IsLast.congr (h : IsLast At last) (heq : ∀ place a, At place a ↔ At' place a) :
    IsLast At' last := by
  have hsame : At = At' := funext₂ fun place a => propext (heq place a)
  exact hsame ▸ h

theorem isLast_none : IsLast (fun _ (_ : α) => False) none := fun _ _ => id

/-- Of the things at earlier and at later places, the last of the later ones is the last one, if
there is any. -/
theorem IsLast.or (h : IsLast At last) (h' : IsLast At' last')
    (hle : ∀ place place' a a', At place a → At' place' a' → place ≤ place') :
    IsLast (fun place a => At place a ∨ At' place a) (last'.or last) := by
  cases last' with
  | some a =>
    obtain ⟨place, ha, hlast⟩ := h'
    refine ⟨place, .inr ha, ?_⟩
    rintro place' a' (h | h)
    · exact hle _ _ _ _ h ha
    · exact hlast place' a' h
  | none =>
    exact h.congr fun place a => ⟨.inl, fun hor => hor.resolve_right (h' place a)⟩

/-- Going on from the same number does not change which thing is the last. -/
theorem IsLast.cons (h : IsLast At last) (number : Nat) :
    IsLast (fun place a => ∃ inner, place = number :: inner ∧ At inner a) last := by
  cases last with
  | none =>
    rintro _ a ⟨inner, -, ha⟩
    exact h inner a ha
  | some a =>
    obtain ⟨inner, ha, hlast⟩ := h
    refine ⟨number :: inner, ⟨inner, rfl, ha⟩, ?_⟩
    rintro _ a' ⟨inner', rfl, ha'⟩
    exact List.cons_le_cons number (hlast inner' a' ha')

theorem nil_le_place (place : List Nat) : [] ≤ place := by
  cases place with
  | nil => exact le_refl _
  | cons number inner => exact le_of_lt List.Lex.nil

theorem getElem?_concat_eq_some {items : List β} {item other : β} {number : Nat} :
    (items ++ [item])[number]? = some other ↔
      items[number]? = some other ∨ number = items.length ∧ other = item := by
  rw [List.getElem?_append]
  split
  · next hlt =>
    refine ⟨.inl, fun h => h.resolve_right ?_⟩
    rintro ⟨rfl, -⟩
    exact Nat.lt_irrefl _ hlt
  · next hge =>
    rw [List.getElem?_eq_none (Nat.le_of_not_lt hge), List.getElem?_singleton]
    by_cases heq : number = items.length
    · subst heq
      simp [eq_comm]
    · rw [if_neg (by omega)]
      simp [heq]

/-- Where the entries of each item are looked up for the last one, so are the entries of all items.
The induction takes the items off at the end, so that the others keep their numbers. -/
theorem isLast_flatMap {entries : β → List (String × α)} {AtItem : β → List Nat → α → Prop}
    {items : List β} {key : String}
    (h : ∀ item ∈ items, IsLast (AtItem item) ((entries item).reverse.lookup key)) :
    IsLast (fun place a => ∃ number item inner,
        place = number :: inner ∧ items[number]? = some item ∧ AtItem item inner a)
      ((items.flatMap entries).reverse.lookup key) := by
  induction items using List.reverseRecOn with
  | nil =>
    refine isLast_none.congr fun place a => ⟨False.elim, ?_⟩
    rintro ⟨number, item, inner, -, hitem, -⟩
    cases hitem
  | append_singleton items item ih =>
    have hitems := ih fun other hm => h other (List.mem_append_left _ hm)
    have hitem := (h item (List.mem_append_right _ List.mem_cons_self)).cons items.length
    rw [List.flatMap_append, List.flatMap_singleton, List.reverse_append, List.lookup_append]
    refine (hitems.or hitem ?_).congr fun place a => ?_
    · rintro _ _ a a' ⟨number, other, inner, rfl, hother, -⟩ ⟨inner', rfl, -⟩
      have hlt : number < items.length := (List.getElem?_eq_some_iff.1 hother).1
      exact le_of_lt (List.Lex.rel hlt)
    · constructor
      · intro h
        obtain ⟨number, other, inner, rfl, hother, ha⟩ | ⟨inner, rfl, ha⟩ := h
        · exact ⟨number, other, inner, rfl, getElem?_concat_eq_some.2 (.inl hother), ha⟩
        · exact ⟨items.length, item, inner, rfl, List.getElem?_concat_length, ha⟩
      · intro h
        obtain ⟨number, other, inner, rfl, hother, ha⟩ := h
        obtain hother | ⟨rfl, rfl⟩ := getElem?_concat_eq_some.1 hother
        · exact .inl ⟨number, other, inner, rfl, hother, ha⟩
        · exact .inr ⟨inner, rfl, ha⟩

end

/-! ## Messages -/

section
variable {scope fullName : String} {messages : List Message} {message : Message}
  {place inner : List Nat} {number : Nat}

theorem Message.named_eq (scope : String) (message : Message) :
    message.named scope = (scope ++ "." ++ message.name, message) ::
      Message.namedAll (scope ++ "." ++ message.name) message.nested := by
  cases message
  rw [Message.named]

theorem Message.namedAll_eq_flatMap (scope : String) (messages : List Message) :
    Message.namedAll scope messages = messages.flatMap (Message.named scope) := by
  induction messages with
  | nil => rw [Message.namedAll]; rfl
  | cons message rest ih => rw [Message.namedAll, ih, List.flatMap_cons]

theorem Message.way?_cons_eq_some {way : List Message} :
    Message.way? messages (number :: inner) = some way ↔
      ∃ outer rest, messages[number]? = some outer ∧
        Message.way? outer.nested inner = some rest ∧ way = outer :: rest := by
  rw [Message.way?]
  cases messages[number]? with
  | none => simp only [reduceCtorEq, false_and, exists_false]
  | some outer =>
    rw [Option.map_eq_some_iff]
    constructor
    · intro h
      obtain ⟨rest, hrest, rfl⟩ := h
      exact ⟨outer, rest, rfl, hrest, rfl⟩
    · intro h
      obtain ⟨_, rest, ⟨⟩, hrest, rfl⟩ := h
      exact ⟨rest, hrest, rfl⟩

/-- A message that stands somewhere is one of the messages at the top or stands inside one of
them. -/
theorem Message.standsAt_iff :
    Message.StandsAt scope messages place fullName message ↔
      ∃ number outer inner, place = number :: inner ∧ messages[number]? = some outer ∧
        Message.StandsWithin scope fullName outer inner message := by
  constructor
  · intro h
    obtain ⟨way, hway, hlast, rfl⟩ := h
    cases place with
    | nil =>
      cases hway
      cases hlast
    | cons number inner =>
      obtain ⟨outer, rest, houter, hrest, rfl⟩ := Message.way?_cons_eq_some.1 hway
      refine ⟨number, outer, inner, rfl, houter, ?_⟩
      cases inner with
      | nil =>
        cases hrest
        cases hlast
        exact .inl ⟨rfl, rfl, rfl⟩
      | cons number' inner =>
        obtain ⟨next, rest', -, -, rfl⟩ := Message.way?_cons_eq_some.1 hrest
        exact .inr ⟨next :: rest', hrest, hlast, rfl⟩
  · intro h
    obtain ⟨number, outer, inner, rfl, houter, ⟨rfl, rfl, rfl⟩ | ⟨rest, hrest, hlast, rfl⟩⟩ := h
    · exact ⟨[message], Message.way?_cons_eq_some.2 ⟨message, [], houter, rfl, rfl⟩, rfl, rfl⟩
    · refine ⟨outer :: rest, Message.way?_cons_eq_some.2 ⟨outer, rest, houter, hrest, rfl⟩, ?_, rfl⟩
      have hne : rest ≠ [] := by
        rintro rfl
        cases hlast
      rw [List.getLast?_cons_of_ne_nil hne, hlast]

/-- Induction on the nesting: what holds of a list of messages whenever it holds of those inside each
of them holds of all lists. -/
theorem Message.forall_of_nested {P : List Message → Prop}
    (h : ∀ messages, (∀ message ∈ messages, P message.nested) → P messages) :
    ∀ messages, P messages := by
  intro messages
  refine h messages fun message hm => ?_
  have hsize := List.sizeOf_lt_of_mem hm
  exact Message.forall_of_nested h message.nested
termination_by messages => sizeOf messages
decreasing_by
  cases message
  simp only [Message.mk.sizeOf_spec] at hsize ⊢
  omega

/-- The last message of a name is found in a message if it is found inside it: the messages inside
come after the message itself. -/
theorem isLast_named {name : String} (outer : Message) (scope : String)
    (h : IsLast (fun inner message =>
        Message.StandsAt (scope ++ "." ++ outer.name) outer.nested inner name message)
      ((Message.namedAll (scope ++ "." ++ outer.name) outer.nested).reverse.lookup name)) :
    IsLast (Message.StandsWithin scope name outer) ((outer.named scope).reverse.lookup name) := by
  have hself : IsLast
      (fun inner message => inner = [] ∧ name = scope ++ "." ++ outer.name ∧ message = outer)
      ([(scope ++ "." ++ outer.name, outer)].lookup name) := by
    rw [List.lookup_cons, List.lookup_nil]
    split
    · next he => exact ⟨[], ⟨rfl, eq_of_beq he, rfl⟩, fun _ _ h => h.1 ▸ le_refl _⟩
    · next he => exact fun _ _ h => absurd h.2.1 (ne_of_beq_false he)
  rw [Message.named_eq, List.reverse_cons, List.lookup_append]
  exact hself.or h fun _ inner _ _ hnil _ => hnil.1 ▸ nil_le_place inner

/-- Of the messages of a list and those inside them, the last one of a name is found. The induction
is on the nesting; the scope grows with every step down. -/
theorem isLast_namedAll (name : String) (messages : List Message) (scope : String) :
    IsLast (fun place message => Message.StandsAt scope messages place name message)
      ((Message.namedAll scope messages).reverse.lookup name) := by
  induction messages using Message.forall_of_nested generalizing scope with
  | _ messages ih =>
    rw [Message.namedAll_eq_flatMap]
    refine (isLast_flatMap fun outer hm => ?_).congr fun place message => Message.standsAt_iff.symm
    exact isLast_named outer scope (ih outer hm (scope ++ "." ++ outer.name))

/-- Of the messages in some files, the last one of a name is found. -/
theorem isLast_ofFiles (files : List File) (name : String) :
    IsLast (fun place message => Declares files place name message)
      ((TypeIndex.ofFiles files).find? name) :=
  isLast_flatMap fun file _ => isLast_namedAll name file.messages file.scope

end

/-! ## Names that stand at one place -/

section
variable {α β : Type} {entries : β → List (String × α)} {AtItem : β → List Nat → α → Prop}
  {items : List β} {key : String}

/-- The key of a thing that is at some place is among those of the entries. -/
theorem mem_keys_of_isLast {entries : List (String × α)} {At : List Nat → α → Prop}
    {place : List Nat} {a : α} (h : IsLast At (entries.reverse.lookup key)) (hat : At place a) :
    key ∈ entries.map (·.1) := by
  by_contra hnot
  have hnone : entries.reverse.lookup key = none := by
    rw [Entries.lookup_eq_none, List.map_reverse, List.mem_reverse]
    exact hnot
  rw [hnone] at h
  exact h place a hat

/-- Items whose keys do not repeat have no key in common, so a key is in one item only. -/
theorem place_eq_flatMap (AtItem : β → List Nat → α → Prop)
    (hnodup : ((items.flatMap entries).map (·.1)).Nodup)
    (hlast : ∀ item ∈ items, IsLast (AtItem item) ((entries item).reverse.lookup key))
    (hplace : ∀ item ∈ items, ((entries item).map (·.1)).Nodup → ∀ inner inner' a a',
      AtItem item inner a → AtItem item inner' a' → inner = inner')
    {number number' : Nat} {item item' : β} {inner inner' : List Nat} {a a' : α}
    (hitem : items[number]? = some item) (hitem' : items[number']? = some item')
    (hat : AtItem item inner a) (hat' : AtItem item' inner' a') :
    number :: inner = number' :: inner' := by
  have hkey := mem_keys_of_isLast (hlast item (List.mem_of_getElem? hitem)) hat
  have hkey' := mem_keys_of_isLast (hlast item' (List.mem_of_getElem? hitem')) hat'
  obtain ⟨hlt, rfl⟩ := List.getElem?_eq_some_iff.1 hitem
  obtain ⟨hlt', rfl⟩ := List.getElem?_eq_some_iff.1 hitem'
  rw [List.map_flatMap, List.nodup_flatMap, List.pairwise_iff_getElem] at hnodup
  obtain ⟨heach, hdisjoint⟩ := hnodup
  rcases Nat.lt_trichotomy number number' with h | rfl | h
  · exact absurd hkey' (hdisjoint number number' hlt hlt' h hkey)
  · have hm := List.getElem_mem hlt
    rw [hplace _ hm (heach _ hm) inner inner' a a' hat hat']
  · exact absurd hkey (hdisjoint number' number hlt' hlt h hkey')

end

theorem Message.place_eq {name : String} {messages : List Message} {scope : String}
    (hnodup : ((Message.namedAll scope messages).map (·.1)).Nodup)
    {place place' : List Nat} {message message' : Message}
    (hat : Message.StandsAt scope messages place name message)
    (hat' : Message.StandsAt scope messages place' name message') : place = place' := by
  induction messages using Message.forall_of_nested
    generalizing scope place place' message message' with
  | _ messages ih =>
    rw [Message.namedAll_eq_flatMap] at hnodup
    obtain ⟨number, outer, inner, rfl, houter, hin⟩ := Message.standsAt_iff.1 hat
    obtain ⟨number', outer', inner', rfl, houter', hin'⟩ := Message.standsAt_iff.1 hat'
    have hlast : ∀ outer ∈ messages,
        IsLast (Message.StandsWithin scope name outer) ((outer.named scope).reverse.lookup name) :=
      fun outer _ => isLast_named outer scope (isLast_namedAll name _ _)
    refine place_eq_flatMap _ hnodup hlast ?_ houter houter' hin hin'
    intro outer hm heach inner inner' a a' hin hin'
    rw [Message.named_eq, List.map_cons, List.nodup_cons] at heach
    obtain ⟨hself, hinside⟩ := heach
    have hnot : ∀ inner a, Message.StandsAt (scope ++ "." ++ outer.name) outer.nested inner name a →
        name ≠ scope ++ "." ++ outer.name := by
      rintro inner a hat rfl
      exact hself (mem_keys_of_isLast (isLast_namedAll _ _ _) hat)
    rcases hin with ⟨rfl, hname, -⟩ | hin <;> rcases hin' with ⟨rfl, hname', -⟩ | hin'
    · rfl
    · exact absurd hname (hnot _ _ hin')
    · exact absurd hname' (hnot _ _ hin)
    · exact ih outer hm hinside hin hin'

/-- Where no name occurs twice in the index, none stands at two places. -/
theorem hasDistinctNames_of_nodup {files : List File} (h : (TypeIndex.ofFiles files).names.Nodup) :
    HasDistinctNames files := by
  rintro _ _ name message message' ⟨number, file, inner, rfl, hfile, hat⟩
    ⟨number', file', inner', rfl, hfile', hat'⟩
  have hlast : ∀ file ∈ files,
      IsLast (fun inner message => Message.StandsAt file.scope file.messages inner name message)
        ((Message.namedAll file.scope file.messages).reverse.lookup name) :=
    fun file _ => isLast_namedAll name file.messages file.scope
  exact place_eq_flatMap _ h hlast
    (fun _ _ hnodup _ _ _ _ hat hat' => Message.place_eq hnodup hat hat') hfile hfile' hat hat'

end ToolBindings
