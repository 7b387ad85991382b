import ToolBindings.Proofs.Journal.Success
import ToolBindings.Proofs.Text.Pieces
import ToolBindings.Settings

/-!
# What a parameter says

A parameter is a list of items between commas, and an item is a key and a value around an equals
sign. Here the form of a parameter and what it says are described without a reader, and then
`Settings.ofParameter` is shown to go by that description.

* `Writes`, `Says`, `IsRefused`: what an item can say, and the error if it says nothing.
  `ofText_eq_ok_iff` and `ofText_eq_error_iff` are about one item.
* `HasItems`: the items of a parameter. Blank ones do not count; `itemTexts_eq_iff`.
* `InForce`: the last item for a key counts. `foldl_apply_eq_iff` is about all items together.
* `Spaced`: more blank space, which `mapM_ofText_spaced` shows to make no difference.
* `ofParameter_grammar`: what is accepted and what it says, and the error if it is not accepted.
-/
namespace ToolBindings.Settings
open Text

/-! ## The value of a key -/

/-- What a value can be for each key, and what it then says. -/
inductive Writes : String → String → Item → Prop where
  | suffix (stem : String) : Writes "suffix" (stem ++ ".py") (.suffix (stem ++ ".py"))
  | run : Writes "name_scope" "run" (.nameScope .run)
  | file : Writes "name_scope" "file" (.nameScope .file)
  | yes {value : String}
    (h : String.ofList (lowerCase value.toList) ∈ ["true", "1", "yes", "on"]) :
    Writes "require_descriptions" value (.requireDescriptions true)
  | no {value : String}
    (h : String.ofList (lowerCase value.toList) ∈ ["false", "0", "no", "off"]) :
    Writes "require_descriptions" value (.requireDescriptions false)
  | runtimeModule {value : String} {parts : List (List Char)}
    (h : IsPieces '.' parts value.toList) (hparts : ∀ part ∈ parts, isIdentifier part = true) :
    Writes "runtime_module" value (.runtimeModule value)

def refusal (key value : String) : SettingsError :=
  match key with
  | "suffix" => .badSuffix value
  | "name_scope" => .badNameScope value
  | "require_descriptions" => .notBoolean key value
  | "runtime_module" => .notModulePath value
  | _ => .unknownSetting key

section
variable {key value : String} {item : Item} {error : SettingsError}

theorem isSuffixOf_iff {ending : String} : ending.toList.isSuffixOf value.toList = true ↔
    ∃ stem, value = stem ++ ending := by
  rw [List.isSuffixOf_iff_suffix]
  constructor
  · intro h
    obtain ⟨stem, h⟩ := h
    refine ⟨String.ofList stem, String.toList_inj.1 ?_⟩
    rw [String.toList_append, String.toList_ofList, h]
  · rintro ⟨stem, rfl⟩
    exact ⟨stem.toList, String.toList_append.symm⟩

theorem lookup_booleanWords {word : String} {flag : Bool} :
    booleanWords.lookup word = some flag ↔ (word, flag) ∈ booleanWords := by
  constructor
  · intro h
    obtain ⟨front, back, h, -⟩ := List.lookup_eq_some_iff.1 h
    rw [h]
    exact List.mem_append_right _ List.mem_cons_self
  · -- No word is in the list twice.
    have found : ∀ entry ∈ booleanWords, booleanWords.lookup entry.1 = some entry.2 := by decide
    exact found (word, flag)

theorem isModulePath_iff : isModulePath value = true ↔
    ∃ parts, IsPieces '.' parts value.toList ∧ ∀ part ∈ parts, isIdentifier part = true := by
  unfold isModulePath
  rw [List.all_eq_true]
  constructor
  · intro h
    exact ⟨_, isPieces_splitOn _ _, h⟩
  · intro h
    obtain ⟨parts, hpieces, hparts⟩ := h
    rwa [splitOn_eq_iff.2 hpieces]

theorem writes_of_ofPair (h : Item.ofPair key value = .ok item) : Writes key value item := by
  unfold Item.ofPair at h
  split at h
  · split at h
    · next hsuffix =>
      obtain ⟨stem, rfl⟩ := isSuffixOf_iff.1 hsuffix
      cases h
      exact .suffix stem
    · cases h
  · split at h
    · cases h; exact .run
    · cases h; exact .file
    · cases h
  · split at h
    · next flag hflag =>
      have hmem := lookup_booleanWords.1 hflag
      cases h
      cases flag with
      | true => exact .yes (by simpa [booleanWords] using hmem)
      | false => exact .no (by simpa [booleanWords] using hmem)
    · cases h
  · split at h
    · next hpath =>
      obtain ⟨parts, hpieces, hparts⟩ := isModulePath_iff.1 hpath
      cases h
      exact .runtimeModule hpieces hparts
    · cases h
  · cases h

theorem ofPair_of_writes (h : Writes key value item) : Item.ofPair key value = .ok item := by
  cases h with
  | suffix stem => exact if_pos (isSuffixOf_iff.2 ⟨stem, rfl⟩)
  | run => rfl
  | file => rfl
  | yes h =>
    have hflag : boolean? value = some true :=
      lookup_booleanWords.2 (by simpa [booleanWords] using h)
    simp only [Item.ofPair, hflag]
  | no h =>
    have hflag : boolean? value = some false :=
      lookup_booleanWords.2 (by simpa [booleanWords] using h)
    simp only [Item.ofPair, hflag]
  | runtimeModule h hparts => exact if_pos (isModulePath_iff.2 ⟨_, h, hparts⟩)

theorem eq_refusal_of_ofPair (h : Item.ofPair key value = .error error) :
    error = refusal key value := by
  unfold Item.ofPair at h
  split at h
  · split at h <;> cases h
    rfl
  · split at h <;> cases h
    rfl
  · split at h <;> cases h
    rfl
  · split at h <;> cases h
    rfl
  · next hsuffix hscope hrequire hmodule =>
    cases h
    simp only [refusal]

theorem ofPair_eq_ok_iff : Item.ofPair key value = .ok item ↔ Writes key value item :=
  ⟨writes_of_ofPair, ofPair_of_writes⟩

theorem ofPair_eq_error_iff : Item.ofPair key value = .error error ↔
    (∀ item, ¬ Writes key value item) ∧ error = refusal key value := by
  constructor
  · intro h
    refine ⟨fun item hitem => ?_, eq_refusal_of_ofPair h⟩
    rw [ofPair_of_writes hitem] at h
    cases h
  · rintro ⟨hnone, rfl⟩
    cases h : Item.ofPair key value with
    | ok item => exact absurd (writes_of_ofPair h) (hnone item)
    | error error => rw [eq_refusal_of_ofPair h]

end

/-! ## One item -/

/-- A key and a value around the first equals sign of a text, both without the blank space
around them. -/
def Assigns (text : List Char) (key value : String) : Prop :=
  ∃ before after, text = before ++ '=' :: after ∧ '=' ∉ before ∧
    IsTrimmed before key.toList ∧ IsTrimmed after value.toList

/-- A text says something. -/
def Says (text : List Char) (item : Item) : Prop :=
  ∃ key value, Assigns text key value ∧ Writes key value item

/-- A text says nothing, and this is the error. -/
def IsRefused (text : List Char) (error : SettingsError) : Prop :=
  ('=' ∉ text ∧ error = .missingValue (String.ofList text)) ∨
    ∃ key value, Assigns text key value ∧ (∀ item, ¬ Writes key value item) ∧
      error = refusal key value

section
variable {text : List Char} {key value : String} {item : Item} {error : SettingsError}

theorem ofText_cut {before : List Char} (h : '=' ∉ before) (after : List Char) :
    Item.ofText (before ++ '=' :: after) =
      Item.ofPair (String.ofList (trimBlank before)) (String.ofList (trimBlank after)) := by
  rw [Item.ofText, cutFirst?_eq_some_iff.2 ⟨rfl, h⟩]

theorem ofText_of_not_mem (h : '=' ∉ text) :
    Item.ofText text = .error (.missingValue (String.ofList text)) := by
  rw [Item.ofText, cutFirst?_eq_none_iff.2 h]

theorem ofText_of_assigns (h : Assigns text key value) :
    Item.ofText text = Item.ofPair key value := by
  obtain ⟨before, after, rfl, hbefore, hkey, hvalue⟩ := h
  rw [ofText_cut hbefore, trimBlank_eq_iff.2 hkey, trimBlank_eq_iff.2 hvalue, String.ofList_toList,
    String.ofList_toList]

theorem exists_assigns (h : '=' ∈ text) : ∃ key value, Assigns text key value := by
  obtain ⟨before, after, rfl, hbefore⟩ := List.eq_append_cons_of_mem h
  refine ⟨String.ofList (trimBlank before), String.ofList (trimBlank after), before, after, rfl,
    hbefore, ?_, ?_⟩
  · rw [String.toList_ofList]; exact isTrimmed_trimBlank before
  · rw [String.toList_ofList]; exact isTrimmed_trimBlank after

theorem ofText_eq_ok_iff : Item.ofText text = .ok item ↔ Says text item := by
  constructor
  · intro h
    by_cases hmem : '=' ∈ text
    · obtain ⟨key, value, hassigns⟩ := exists_assigns hmem
      rw [ofText_of_assigns hassigns, ofPair_eq_ok_iff] at h
      exact ⟨key, value, hassigns, h⟩
    · rw [ofText_of_not_mem hmem] at h
      cases h
  · rintro ⟨key, value, hassigns, hwrites⟩
    rwa [ofText_of_assigns hassigns, ofPair_eq_ok_iff]

theorem ofText_eq_error_iff : Item.ofText text = .error error ↔ IsRefused text error := by
  constructor
  · intro h
    by_cases hmem : '=' ∈ text
    · obtain ⟨key, value, hassigns⟩ := exists_assigns hmem
      rw [ofText_of_assigns hassigns] at h
      exact .inr ⟨key, value, hassigns, ofPair_eq_error_iff.1 h⟩
    · rw [ofText_of_not_mem hmem] at h
      cases h
      exact .inl ⟨hmem, rfl⟩
  · rintro (⟨hmem, rfl⟩ | ⟨key, value, hassigns, hrefused⟩)
    · exact ofText_of_not_mem hmem
    · rw [ofText_of_assigns hassigns, ofPair_eq_error_iff.2 hrefused]

end

/-! ## All items -/

/-- The items of a parameter: what stands between its commas, without the blank space around it
and without what is then empty. -/
def HasItems (parameter : String) (texts : List (List Char)) : Prop :=
  ∃ pieces trimmed, IsPieces ',' pieces parameter.toList ∧
    List.Forall₂ IsTrimmed pieces trimmed ∧ texts = trimmed.filter (· ≠ [])

theorem itemTexts_eq_iff {parameter : String} {texts : List (List Char)} :
    itemTexts parameter = texts ↔ HasItems parameter texts := by
  have htrimmed : ∀ pieces trimmed : List (List Char),
      List.Forall₂ IsTrimmed pieces trimmed ↔ pieces.map trimBlank = trimmed := by
    intro pieces trimmed
    rw [← List.forall₂_eq_eq_eq, List.forall₂_map_left_iff]
    simp only [trimBlank_eq_iff]
  constructor
  · rintro rfl
    exact ⟨_, _, isPieces_splitOn _ _, (htrimmed _ _).2 rfl, rfl⟩
  · rintro ⟨pieces, trimmed, hpieces, htrim, rfl⟩
    rw [itemTexts, splitOn_eq_iff.2 hpieces, (htrimmed _ _).1 htrim]

/-! ## The last item for a key -/

def Item.key : Item → String
  | .suffix _ => "suffix"
  | .nameScope _ => "name_scope"
  | .requireDescriptions _ => "require_descriptions"
  | .runtimeModule _ => "runtime_module"

def items (settings : Settings) : List Item := [
  .suffix settings.suffix, .nameScope settings.nameScope,
  .requireDescriptions settings.requireDescriptions, .runtimeModule settings.runtimeModule]

/-- An item that counts after others are written: it is the last of them for its key, or it is a
default and none of them is for its key. -/
inductive InForce (written : List Item) (item : Item) : Prop where
  | last {before after : List Item} (h : written = before ++ item :: after)
    (hafter : ∀ later ∈ after, later.key ≠ item.key)
  | default (h : item ∈ ({} : Settings).items) (hwritten : ∀ other ∈ written, other.key ≠ item.key)

/-- A key and a value write an item for that key. -/
theorem Writes.key_eq {key value : String} {item : Item} (h : Writes key value item) :
    item.key = key := by
  cases h <;> rfl

section
variable {settings : Settings} {written : List Item} {item other : Item}

theorem eq_of_mem_items (hitem : item ∈ settings.items) (hother : other ∈ settings.items)
    (hkey : item.key = other.key) : item = other := by
  have hnodup : (settings.items.map Item.key).Nodup := by
    show ["suffix", "name_scope", "require_descriptions", "runtime_module"].Nodup
    decide
  exact List.inj_on_of_nodup_map hnodup hitem hother hkey

/-- Two items of a list that are each the last for one key are the same item. -/
theorem eq_of_last {before after before' after' : List Item}
    (h : before ++ item :: after = before' ++ other :: after')
    (hafter : ∀ later ∈ after, later.key ≠ item.key)
    (hafter' : ∀ later ∈ after', later.key ≠ other.key) (hkey : item.key = other.key) :
    item = other := by
  obtain ⟨between, -, h⟩ | ⟨between, -, h⟩ := List.append_eq_append_iff.1 h
  · cases between with
    | nil => cases h; rfl
    | cons first rest =>
      cases h
      exact absurd hkey.symm (hafter other (List.mem_append_right _ List.mem_cons_self))
  · cases between with
    | nil => cases h; rfl
    | cons first rest =>
      cases h
      exact absurd hkey (hafter' item (List.mem_append_right _ List.mem_cons_self))

/-- For each key one item counts. -/
theorem InForce.unique (hitem : InForce written item) (hother : InForce written other)
    (hkey : item.key = other.key) : item = other := by
  cases hitem with
  | last h hafter =>
    cases hother with
    | last h' hafter' => exact eq_of_last (h.symm.trans h') hafter hafter' hkey
    | default _ hwritten =>
      rw [h] at hwritten
      exact absurd hkey (hwritten item (List.mem_append_right _ List.mem_cons_self))
  | default hdefault hwritten =>
    cases hother with
    | last h _ =>
      rw [h] at hwritten
      exact absurd hkey.symm (hwritten other (List.mem_append_right _ List.mem_cons_self))
    | default hdefault' _ => exact eq_of_mem_items hdefault hdefault' hkey

theorem inForce_append_self : InForce (written ++ [item]) item :=
  .last rfl nofun

theorem InForce.append (h : InForce written other) (hkey : item.key ≠ other.key) :
    InForce (written ++ [item]) other := by
  have hlater {list : List Item} (hlist : ∀ later ∈ list, later.key ≠ other.key) :
      ∀ later ∈ list ++ [item], later.key ≠ other.key := by
    rw [List.forall_mem_append, List.forall_mem_singleton]
    exact ⟨hlist, hkey⟩
  cases h with
  | last h hafter => exact .last (by rw [h, List.append_assoc, List.cons_append]) (hlater hafter)
  | default h hwritten => exact .default h (hlater hwritten)

/-- Writing an item replaces what the settings say for its key. -/
theorem mem_items_apply (h : other ∈ (settings.apply item).items) :
    other = item ∨ other ∈ settings.items ∧ item.key ≠ other.key := by
  cases item <;>
  · simp only [items, apply, List.mem_cons, List.not_mem_nil, or_false] at h ⊢
    rcases h with rfl | rfl | rfl | rfl <;> simp [Item.key]

theorem inForce_of_mem_foldl (h : item ∈ (written.foldl apply {}).items) :
    InForce written item := by
  induction written using List.reverseRecOn generalizing item with
  | nil => exact .default h nofun
  | append_singleton written last ih =>
    rw [List.foldl_append, List.foldl_cons, List.foldl_nil] at h
    obtain rfl | ⟨h, hkey⟩ := mem_items_apply h
    · exact inForce_append_self
    · exact (ih h).append hkey

/-- Settings say one thing for each key, and are determined by it. -/
theorem eq_of_inForce {other : Settings} (hsettings : ∀ item ∈ settings.items, InForce written item)
    (hother : ∀ item ∈ other.items, InForce written item) : settings = other := by
  have unique {a b : Item} (ha : a ∈ settings.items) (hb : b ∈ other.items) (hkey : a.key = b.key) :
      a = b := (hsettings a ha).unique (hother b hb) hkey
  obtain ⟨suffix, nameScope, requireDescriptions, runtimeModule⟩ := settings
  obtain ⟨suffix', nameScope', requireDescriptions', runtimeModule'⟩ := other
  have h₁ : Item.suffix suffix = .suffix suffix' := unique (by simp [items]) (by simp [items]) rfl
  have h₂ : Item.nameScope nameScope = .nameScope nameScope' :=
    unique (by simp [items]) (by simp [items]) rfl
  have h₃ : Item.requireDescriptions requireDescriptions =
      .requireDescriptions requireDescriptions' :=
    unique (by simp [items]) (by simp [items]) rfl
  have h₄ : Item.runtimeModule runtimeModule = .runtimeModule runtimeModule' :=
    unique (by simp [items]) (by simp [items]) rfl
  cases h₁; cases h₂; cases h₃; cases h₄
  rfl

theorem foldl_apply_eq_iff : written.foldl apply {} = settings ↔
    ∀ item ∈ settings.items, InForce written item := by
  constructor
  · rintro rfl
    exact fun item h => inForce_of_mem_foldl h
  · exact eq_of_inForce fun item h => inForce_of_mem_foldl h

end

/-! ## More blank space -/

/-- An item and the same with more blank space around it, or around its key and its value. -/
inductive SpacedItem : List Char → List Char → Prop where
  | around {text spaced : List Char} (h : Padded text spaced) : SpacedItem text spaced
  | inside {key key' value value' : List Char} (h : '=' ∉ key) (hkey : Padded key key')
    (hvalue : Padded value value') : SpacedItem (key ++ '=' :: value) (key' ++ '=' :: value')

/-- Pieces of a parameter and the same with more blank space, whole pieces of it among them. -/
inductive Spaced : List (List Char) → List (List Char) → Prop where
  | nil : Spaced [] []
  | blank {piece : List Char} {pieces spaced : List (List Char)} (h : IsBlank piece)
    (hrest : Spaced pieces spaced) : Spaced pieces (piece :: spaced)
  | item {piece piece' : List Char} {pieces spaced : List (List Char)} (h : SpacedItem piece piece')
    (hrest : Spaced pieces spaced) : Spaced (piece :: pieces) (piece' :: spaced)

section
variable {text inner piece piece' : List Char} {pieces spaced : List (List Char)}

/-- The items among the pieces of a parameter. -/
def textsOf (pieces : List (List Char)) : List (List Char) := (pieces.map trimBlank).filter (· ≠ [])

theorem ofText_padded (h : Padded inner text) (hmem : '=' ∈ inner) :
    Item.ofText text = Item.ofText inner := by
  obtain ⟨front, back, hfront, hback, rfl⟩ := h
  obtain ⟨key, value, rfl, hkey⟩ := List.eq_append_cons_of_mem hmem
  have hcut : front ++ (key ++ '=' :: value) ++ back =
      (front ++ key) ++ '=' :: (value ++ back) := by
    simp only [List.append_assoc, List.cons_append]
  have hnot : '=' ∉ front ++ key := by
    rw [List.mem_append, not_or]
    exact ⟨fun hm => Bool.false_ne_true (hfront _ hm), hkey⟩
  rw [hcut, ofText_cut hnot, ofText_cut hkey, trimBlank_append_left hfront,
    trimBlank_append_right hback]

theorem ofText_trimBlank (hmem : '=' ∈ text) : Item.ofText (trimBlank text) = Item.ofText text :=
  (ofText_padded (isTrimmed_trimBlank text).padded
    (((isTrimmed_trimBlank text).padded.mem_iff rfl).1 hmem)).symm

/-- Trimmed, the two are equal or they say the same. -/
theorem trimBlank_spacedItem (h : SpacedItem piece piece') :
    trimBlank piece' = trimBlank piece ∨ trimBlank piece ≠ [] ∧ trimBlank piece' ≠ [] ∧
      Item.ofText (trimBlank piece') = Item.ofText (trimBlank piece) := by
  cases h with
  | around h => exact .inl (trimBlank_padded h)
  | @inside key key' value value' h hkey hvalue =>
    have hmem : ∀ front back : List Char, '=' ∈ front ++ '=' :: back :=
      fun _ _ => List.mem_append_right _ List.mem_cons_self
    have hne {whole : List Char} (hw : '=' ∈ whole) : trimBlank whole ≠ [] :=
      List.ne_nil_of_mem (((isTrimmed_trimBlank whole).padded.mem_iff rfl).1 hw)
    refine .inr ⟨hne (hmem _ _), hne (hmem _ _), ?_⟩
    rw [ofText_trimBlank (hmem _ _), ofText_trimBlank (hmem _ _), ofText_cut h,
      ofText_cut (mt (hkey.mem_iff rfl).1 h), trimBlank_padded hkey, trimBlank_padded hvalue]

theorem textsOf_cons (piece : List Char) (pieces : List (List Char)) :
    textsOf (piece :: pieces) =
      if trimBlank piece = [] then textsOf pieces else trimBlank piece :: textsOf pieces := by
  unfold textsOf
  rw [List.map_cons, List.filter_cons]
  by_cases h : trimBlank piece = [] <;> simp [h]

theorem mapM_ofText_spaced (h : Spaced pieces spaced) :
    (textsOf spaced).mapM Item.ofText = (textsOf pieces).mapM Item.ofText := by
  induction h with
  | nil => rfl
  | blank h _ ih => rw [textsOf_cons, if_pos (trimBlank_of_isBlank h), ih]
  | item h _ ih =>
    rw [textsOf_cons, textsOf_cons]
    obtain h | ⟨hne, hne', h⟩ := trimBlank_spacedItem h
    · rw [h]
      split
      · exact ih
      · rw [List.mapM_cons, List.mapM_cons, ih]
    · rw [if_neg hne, if_neg hne', List.mapM_cons, List.mapM_cons, ih, h]

end

/-! ## The parameter -/

/-- A parameter and the same with more blank space. -/
def AddsBlanks (parameter spaced : String) : Prop :=
  ∃ pieces pieces', IsPieces ',' pieces parameter.toList ∧ Spaced pieces pieces' ∧
    IsPieces ',' pieces' spaced.toList

/-- Two parameters that differ in the order of two items next to each other, which are for
different keys. -/
def Swaps (parameter swapped : String) : Prop :=
  ∃ before first second after, HasItems parameter (before ++ first :: second :: after) ∧
    HasItems swapped (before ++ second :: first :: after) ∧
    ∃ key value key' value', Assigns first key value ∧ Assigns second key' value' ∧ key ≠ key'

section
variable {parameter : String} {texts : List (List Char)} {settings : Settings}
  {error : SettingsError}

theorem ofParameter_eq_ok_iff : ofParameter parameter = .ok settings ↔
    ∃ written, List.Forall₂ Says (itemTexts parameter) written ∧
      ∀ item ∈ settings.items, InForce written item := by
  simp only [ofParameter, bind_eq_ok, pure_eq_ok, mapM_eq_ok, ofText_eq_ok_iff,
    foldl_apply_eq_iff]

theorem exists_ofParameter_eq_ok : (∃ settings, ofParameter parameter = .ok settings) ↔
    ∀ text ∈ itemTexts parameter, ∃ item, Says text item := by
  simp only [ofParameter, bind_eq_ok, pure_eq_ok, ← ofText_eq_ok_iff]
  rw [← exists_mapM_eq_ok]
  constructor
  · rintro ⟨_, written, h, _⟩
    exact ⟨written, h⟩
  · rintro ⟨written, h⟩
    exact ⟨_, written, h, rfl⟩

theorem ofParameter_eq_error_iff : ofParameter parameter = .error error ↔
    ∃ before text after, itemTexts parameter = before ++ text :: after ∧
      (∀ earlier ∈ before, ∃ item, Says earlier item) ∧ IsRefused text error := by
  have hmapM : ofParameter parameter = .error error ↔
      (itemTexts parameter).mapM Item.ofText = .error error := by
    rw [ofParameter, bind_eq_error]
    constructor
    · rintro (h | ⟨_, _, h⟩)
      · exact h
      · cases h
    · exact .inl
  simp only [hmapM, mapM_eq_error, ← ofText_eq_ok_iff, ← ofText_eq_error_iff, ← exists_mapM_eq_ok]
  constructor
  · rintro ⟨before, text, after, written, h, hbefore, htext⟩
    exact ⟨before, text, after, h, ⟨written, hbefore⟩, htext⟩
  · rintro ⟨before, text, after, h, ⟨written, hbefore⟩, htext⟩
    exact ⟨before, text, after, written, h, hbefore, htext⟩

/-- What settings say is a default, or an item says it. -/
theorem says_of_ofParameter (h : ofParameter parameter = .ok settings) {item : Item}
    (hitem : item ∈ settings.items) :
    item ∈ ({} : Settings).items ∨ ∃ text ∈ itemTexts parameter, Says text item := by
  obtain ⟨written, hsays, hforce⟩ := ofParameter_eq_ok_iff.1 h
  cases hforce item hitem with
  | default hdefault _ => exact .inl hdefault
  | last hwritten _ =>
    have hmem : item ∈ written := hwritten ▸ List.mem_append_right _ List.mem_cons_self
    exact .inr (exists_of_forall₂ hsays.flip hmem)

theorem runtimeModule_of_ofParameter (h : ofParameter parameter = .ok settings) :
    ∃ parts, IsPieces '.' parts settings.runtimeModule.toList ∧
      ∀ part ∈ parts, isIdentifier part = true := by
  have hitem : Item.runtimeModule settings.runtimeModule ∈ settings.items := by simp [items]
  obtain hdefault | ⟨_, _, _, _, _, hwrites⟩ := says_of_ofParameter h hitem
  · have hvalue : settings.runtimeModule = ({} : Settings).runtimeModule := by
      simpa [items] using hdefault
    rw [hvalue]
    exact isModulePath_iff.1 (by decide +kernel)
  · cases hwrites with
    | runtimeModule hpieces hparts => exact ⟨_, hpieces, hparts⟩

theorem ofParameter_addsBlanks {spaced : String} (h : AddsBlanks parameter spaced) :
    ofParameter spaced = ofParameter parameter := by
  obtain ⟨pieces, pieces', hpieces, hspaced, hpieces'⟩ := h
  have hmapM := mapM_ofText_spaced hspaced
  rw [← splitOn_eq_iff.2 hpieces, ← splitOn_eq_iff.2 hpieces'] at hmapM
  unfold ofParameter
  exact congrArg (· >>= fun written => pure (written.foldl apply {})) hmapM

theorem apply_comm {item other : Item} (h : item.key ≠ other.key) :
    (settings.apply item).apply other = (settings.apply other).apply item := by
  cases item <;> cases other <;> first | rfl | exact absurd rfl h

theorem ofParameter_swaps {swapped : String} (h : Swaps parameter swapped)
    (hok : ofParameter parameter = .ok settings) : ofParameter swapped = .ok settings := by
  obtain ⟨before, first, second, after, hitems, hitems', key, value, key', value', hfirst, hsecond,
    hkey⟩ := h
  simp only [ofParameter, itemTexts_eq_iff.2 hitems, itemTexts_eq_iff.2 hitems', bind_eq_ok,
    pure_eq_ok, mapM_append_eq_ok, List.mapM_cons] at hok ⊢
  obtain ⟨_, ⟨front, _, hfront, ⟨item, hitem, _, ⟨other, hother, back, hback, rfl⟩, rfl⟩, rfl⟩,
    hsettings⟩ := hok
  refine ⟨_, ⟨front, _, hfront, ⟨other, hother, _, ⟨item, hitem, back, hback, rfl⟩, rfl⟩, rfl⟩, ?_⟩
  have hne : other.key ≠ item.key := by
    rw [ofText_of_assigns hfirst] at hitem
    rw [ofText_of_assigns hsecond] at hother
    rw [(writes_of_ofPair hitem).key_eq, (writes_of_ofPair hother).key_eq]
    exact hkey.symm
  simp only [List.foldl_append, List.foldl_cons] at hsettings ⊢
  rw [apply_comm hne]
  exact hsettings

end

/-- A parameter has one list of items. It is accepted if all of them say something; then it says
for each key what the last item for it says, and the default if there is none. Otherwise the first
item that says nothing decides the error. More blank space makes no difference, and neither does
the order of items for different keys if they are accepted. -/
theorem ofParameter_grammar (parameter : String) :
    ∃ texts, (∀ others, HasItems parameter others ↔ others = texts) ∧
      ((∃ settings, ofParameter parameter = .ok settings) ↔
        ∀ text ∈ texts, ∃ item, Says text item) ∧
      (∀ settings, ofParameter parameter = .ok settings ↔
        ∃ written, List.Forall₂ Says texts written ∧
          ∀ item ∈ settings.items, InForce written item) ∧
      (∀ error, ofParameter parameter = .error error ↔
        ∃ before text after, texts = before ++ text :: after ∧
          (∀ earlier ∈ before, ∃ item, Says earlier item) ∧ IsRefused text error) ∧
      (∀ spaced, AddsBlanks parameter spaced → ofParameter spaced = ofParameter parameter) ∧
      ∀ swapped settings, Swaps parameter swapped → ofParameter parameter = .ok settings →
        ofParameter swapped = .ok settings := by
  refine ⟨itemTexts parameter, fun others => ?_, exists_ofParameter_eq_ok,
    fun settings => ofParameter_eq_ok_iff, fun error => ofParameter_eq_error_iff,
    fun spaced => ofParameter_addsBlanks, fun swapped settings => ofParameter_swaps⟩
  rw [← itemTexts_eq_iff, eq_comm]

/-- What a later item replaces is looked at all the same. -/
example : ofParameter "name_scope=all,name_scope=run" = .error (.badNameScope "all") := by
  decide +kernel

theorem ofParameter_grammar_reordered :
    let settings : Settings := { suffix := "_t.py", nameScope := .file }
    let parameter := "name_scope=run,suffix=_t.py,name_scope=file"
    AddsBlanks parameter " name_scope = run ,, suffix=_t.py,name_scope=file" ∧
      ofParameter " name_scope = run ,, suffix=_t.py,name_scope=file" = .ok settings ∧
      Swaps parameter "suffix=_t.py,name_scope=run,name_scope=file" ∧
      ofParameter "suffix=_t.py,name_scope=run,name_scope=file" = .ok settings := by
  intro settings parameter
  have hok : ofParameter parameter = .ok settings := by decide +kernel
  have hscope : '=' ∉ "name_scope".toList := by decide +kernel
  have hsuffix : '=' ∉ "suffix".toList := by decide +kernel
  have hblank : IsBlank [' '] := by
    intro c hc
    rw [List.mem_singleton.1 hc]
    rfl
  have hspaced : AddsBlanks parameter " name_scope = run ,, suffix=_t.py,name_scope=file" := by
    have hscoped : Padded "name_scope".toList " name_scope ".toList :=
      ⟨[' '], [' '], hblank, hblank, by decide +kernel⟩
    have hrun : Padded "run".toList " run ".toList :=
      ⟨[' '], [' '], hblank, hblank, by decide +kernel⟩
    have hsuffixed : Padded "suffix=_t.py".toList " suffix=_t.py".toList :=
      ⟨[' '], [], hblank, nofun, by decide +kernel⟩
    refine ⟨["name_scope".toList ++ '=' :: "run".toList, "suffix=_t.py".toList,
        "name_scope=file".toList],
      [" name_scope ".toList ++ '=' :: " run ".toList, [], " suffix=_t.py".toList,
        "name_scope=file".toList],
      splitOn_eq_iff.1 (by decide +kernel), ?_, splitOn_eq_iff.1 (by decide +kernel)⟩
    exact .item (.inside hscope hscoped hrun) (.blank nofun (.item (.around hsuffixed)
      (.item (.around (padded_refl _)) .nil)))
  have hswaps : Swaps parameter "suffix=_t.py,name_scope=run,name_scope=file" := by
    refine ⟨[], "name_scope".toList ++ '=' :: "run".toList,
      "suffix".toList ++ '=' :: "_t.py".toList,
      ["name_scope=file".toList], itemTexts_eq_iff.1 (by decide +kernel),
      itemTexts_eq_iff.1 (by decide +kernel), "name_scope", "run", "suffix", "_t.py",
      ⟨_, _, rfl, hscope, ?_, ?_⟩, ⟨_, _, rfl, hsuffix, ?_, ?_⟩, by decide⟩
    all_goals exact trimBlank_eq_iff.1 (by decide +kernel)
  obtain ⟨texts, _, _, _, _, hspace, hswap⟩ := ofParameter_grammar parameter
  exact ⟨hspaced, (hspace _ hspaced).trans hok, hswaps, hswap _ _ hswaps hok⟩

end ToolBindings.Settings
