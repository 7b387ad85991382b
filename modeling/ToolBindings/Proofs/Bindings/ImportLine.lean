import ToolBindings.Generation
import ToolBindings.Proofs.Bindings.Names
import ToolBindings.Proofs.Script.Reading
import ToolBindings.Proofs.Settings
import ToolBindings.Script.Soundness

/-!
# The line that imports the support

Every module takes names from its support by one line, and in that line stands what the settings
give as the module of the support, without quotes.

* `importLine`, `exists_moduleText`: the line, which every module has.
* `tokens_importLine`: its tokens, if the module of the support is a path of identifiers.
* `ofText?_importLine`: when it is a statement.
* `ofParameter_importLine`: what follows for the parameters that are accepted.
* `ofParameter_keyword`: the parts of the path may be keywords, and then it is none.
-/
namespace ToolBindings.Script
open Reader

/-! ## The statement -/

def takenNames : List ImportName := ToolBindings.supportNames.map fun name => { path := [name] }

def takenTokens : List Token :=
  .symbol "(" :: (ToolBindings.supportNames.flatMap fun name => [.name name, .symbol ","]) ++
    [.symbol ")", .newline, .finish]

theorem importFrom_names {r : Rules} {first : List Char} {others : List (List Char)} {bound : Nat}
    (hbound : r.bound = bound + 50 + others.length)
    (h : ∀ part ∈ first :: others, wordToken part = .name (wordName part)) :
    importFromStatement r (pathTokens first others ++ .keyword "import" :: takenTokens) =
      .ok (.loadFrom 0 ((first :: others).map wordName) (some takenNames),
        [.newline, .finish]) := by
  have hdotted : dotted r (pathTokens first others ++ .keyword "import" :: takenTokens) = _ :=
    dotted_names (hbound.trans (by omega : _ = bound + 49 + 1 + others.length)) h
  have hlarge : r.bound = bound + others.length + 49 + 1 := by omega
  rw [pathTokens, h first List.mem_cons_self] at hdotted ⊢
  unfold importFromStatement
  refine (bind_of_ok (a := []) (by rw [hlarge]; rfl)).trans ?_
  refine (bind_of_ok rfl).trans ?_
  refine (bind_of_ok (map_of_ok hdotted)).trans ?_
  rw [hlarge]
  rfl

/-! ## Soundness -/

/-- No feature of the language has one of the names. -/
theorem isSound_future (bound : Nat) :
    (Program.scope (bound + 1) [.loadFrom 0 ["__future__"] (some takenNames)]).isSound (bound + 1)
      .script [] [] = false := rfl

theorem isSound_loadFrom (bound : Nat) {path : List String} (h : path ≠ ["__future__"]) :
    (Program.scope (bound + 1) [.loadFrom 0 path (some takenNames)]).isSound (bound + 1)
      .script [] [] = true := by
  have hfeatures : (Statement.loadFrom 0 path (some takenNames)).features? = none := by
    rw [Statement.features?]
    rintro level names ⟨⟩
    exact h rfl
  have hoccurrences (place : Place) :
      (Statement.loadFrom 0 path (some takenNames)).occurrences (bound + 1) place =
        takenNames.map fun name => .load (name.knownAs.getD (name.path.head?.getD "")) := by
    rw [Statement.occurrences]
    rintro rfl
    exact h rfl
  have hsplit : Program.splitFeatures [.loadFrom 0 path (some takenNames)] =
      ([], [.loadFrom 0 path (some takenNames)]) := by
    simp [Program.splitFeatures, Statement.isDescription, hfeatures]
  unfold Program.scope
  rw [hsplit]
  simp only [List.flatMap_cons, List.flatMap_nil, hoccurrences]
  rfl

end ToolBindings.Script

namespace ToolBindings
open Script
open Text (IsPieces isIdentifier isKeyword mem_intercalate length_le_intercalate splitOn_eq_iff)

/-! ## The line -/

/-- What stands behind the path in the line by which a module takes names from its support. -/
def importEnd : String :=
  " import (\n" ++
    String.join (ToolBindings.supportNames.map fun name => "    " ++ name ++ ",\n") ++ ")\n"

/-- The line by which a module takes names from its support. -/
def importLine (support : String) : String := "from " ++ support ++ importEnd

/-- What stands in front of a module's definitions ends with that line. -/
theorem exists_header (source support : String) :
    ∃ front, Module.header source support = front ++ importLine support ++ "\n" ∧
      front.toList.getLast? = some '\n' := by
  refine ⟨"# Code generated by protoc-gen-tools. DO NOT EDIT.\n" ++ "# source: " ++ source ++
      "\n" ++ "\"\"\"Agent tool bindings for " ++ source ++ ".\"\"\"\n\n" ++
      "from __future__ import annotations\n\n" ++ "import functools\n" ++
      "from typing import Any\n\n", ?_, ?_⟩
  · have hend : ")\n\n" = ")\n" ++ "\n" := rfl
    rw [header_eq, importLine, importEnd, hend]
    simp only [String.append_assoc]
  · rw [String.toList_append, List.getLast?_append_of_ne_nil _ (by decide +kernel)]
    decide +kernel

/-- Every module has that line. -/
theorem exists_moduleText {file : File} {settings : Settings} {tools : List Tool} {text : String}
    (h : moduleText file settings tools = .ok text) :
    ∃ front back, text = front ++ importLine settings.runtimeModule ++ back ∧
      front.toList.getLast? = some '\n' := by
  obtain ⟨m, hm, rfl⟩ := map_eq_ok.1 h
  obtain ⟨definitions, -, hm⟩ := bind_eq_ok.1 hm
  cases hm
  obtain ⟨front, hfront, hlast⟩ := exists_header file.name settings.runtimeModule
  rw [Module.render, hfront]
  exact ⟨front, _, String.append_assoc, hlast⟩

/-- Quotes and what ends a line or a text. -/
def breakMarks : List Char := ['"', '\x27', '\r', '\x00']

/-- Whether a character is none of these marks. -/
def isPlain (c : Char) : Bool := !breakMarks.contains c

section
variable {support : String} {first : List Char} {others : List (List Char)}

theorem toList_importLine (h : IsPieces '.' (first :: others) support.toList) :
    (importLine support).toList =
      "from".toList ++ ' ' :: (['.'].intercalate (first :: others) ++ importEnd.toList) := by
  have hfrom : "from ".toList = "from".toList ++ [' '] := by decide +kernel
  unfold importLine
  rw [h.joined, String.toList_append, String.toList_append, List.append_assoc, hfrom,
    List.append_assoc, List.singleton_append]

theorem getLast?_importLine (support : String) :
    (importLine support).toList.getLast? = some '\n' := by
  unfold importLine
  rw [String.toList_append, List.getLast?_append_of_ne_nil _ (by decide +kernel)]
  decide +kernel

/-- Between the parts of the path are dots, so there are more characters than parts. -/
theorem length_importLine (h : IsPieces '.' (first :: others) support.toList) :
    others.length + 104 ≤ (importLine support).toList.length := by
  have hpath : (first :: others).length ≤ (['.'].intercalate (first :: others)).length + 1 :=
    length_le_intercalate
  have hfrom : "from".toList.length = 4 := by decide +kernel
  have hend : importEnd.toList.length = 99 := by decide +kernel
  rw [List.length_cons] at hpath
  rw [toList_importLine h]
  simp only [List.length_append, List.length_cons, hfrom, hend]
  omega

/-! ## Its tokens -/

theorem isPlain_path {c : Char} (hparts : ∀ part ∈ first :: others, isIdentifier part = true)
    (h : c ∈ ['.'].intercalate (first :: others)) : isPlain c = true := by
  have hmarks : breakMarks.all (fun mark => !isWordPart mark && mark != '.') = true := by decide
  rw [isPlain, Bool.not_eq_true', List.contains_eq_mem, decide_eq_false_iff_not]
  intro hmark
  have hc := List.all_eq_true.1 hmarks c hmark
  rw [Bool.and_eq_true, Bool.not_eq_true', bne_iff_ne] at hc
  obtain hdot | ⟨part, hpart, hmem⟩ := mem_intercalate h
  · exact hc.2 hdot
  · have hword := (isWord_of_isIdentifier (hparts part hpart)).parts c hmem
    exact Bool.false_ne_true (hc.1.symm.trans hword)

theorem isPlain_importLine (h : IsPieces '.' (first :: others) support.toList)
    (hparts : ∀ part ∈ first :: others, isIdentifier part = true) :
    ∀ c ∈ (importLine support).toList, isPlain c = true := by
  have hfrom : "from".toList.all isPlain = true := by decide +kernel
  have hend : importEnd.toList.all isPlain = true := by decide +kernel
  rw [toList_importLine h, List.forall_mem_append, List.forall_mem_cons, List.forall_mem_append]
  exact ⟨List.all_eq_true.1 hfrom, rfl, fun c hc => isPlain_path hparts hc,
    List.all_eq_true.1 hend⟩

theorem cuts_importLine (h : IsPieces '.' (first :: others) support.toList)
    (hparts : ∀ part ∈ first :: others, isIdentifier part = true) :
    Cuts [] [] [] (2 * others.length + 3) (importLine support).toList
      (.keyword "from" :: pathTokens first others) importEnd.toList := by
  have hblank : ∀ c ∈ (' ' :: (['.'].intercalate (first :: others) ++ importEnd.toList)).head?,
      endsWord c = true := by
    rintro c ⟨⟩
    rfl
  have himport : ∀ c ∈ importEnd.toList.head?, endsWord c = true := by
    have hhead : importEnd.toList.head? = some ' ' := by decide +kernel
    rw [hhead]
    rintro c ⟨⟩
    rfl
  have hfrom : wordToken "from".toList = .keyword "from" := by decide +kernel
  have hword : isIdentifier "from".toList = true := by decide +kernel
  have hcuts := ((cuts_word hword hblank).trans (cuts_blank _)).trans (cuts_path hparts himport)
  rw [hfrom] at hcuts
  rw [toList_importLine h]
  exact hcuts

set_option maxRecDepth 10000 in
theorem tokensWithin_importEnd (bound : Nat) :
    tokensWithin (bound + 200) [] [] false importEnd.toList =
      .keyword "import" :: takenTokens := rfl

theorem tokens_importLine (h : IsPieces '.' (first :: others) support.toList)
    (hparts : ∀ part ∈ first :: others, isIdentifier part = true) :
    tokens (importLine support) =
      .keyword "from" :: (pathTokens first others ++ .keyword "import" :: takenTokens) := by
  have hplain := isPlain_importLine h hparts
  have hlength := length_importLine h
  have hline (bound : Nat) : tokensWithin (bound + 1) [] [] true (importLine support).toList =
      tokensWithin bound [] [] false (importLine support).toList := by
    rw [toList_importLine h]
    exact tokensWithin_line (c := 'f') (by decide) _ _
  have hlarge : 200 + (2 * others.length + 3) + 1 ≤ 2 * (importLine support).toList.length + 2 := by
    omega
  obtain ⟨bound, hbound⟩ := Nat.exists_eq_add_of_le' hlarge
  rw [tokens_of_lines (fun hm => absurd (hplain _ hm) (by decide))
    (fun hm => absurd (hplain _ hm) (by decide)) (getLast?_importLine support), hbound,
    ← Nat.add_assoc, ← Nat.add_assoc, hline,
    cuts_importLine h hparts, tokensWithin_importEnd, List.cons_append]

/-! ## What it says -/

/-- There are more characters than readers need steps. -/
theorem exists_bound (h : IsPieces '.' (first :: others) support.toList) :
    ∃ bound, (importLine support).length + 2 = bound + 50 + others.length := by
  have hlength := length_importLine h
  rw [String.length_toList] at hlength
  exact ⟨(importLine support).length + 2 - (50 + others.length), by omega⟩

theorem read?_of_names (h : IsPieces '.' (first :: others) support.toList)
    (hparts : ∀ part ∈ first :: others, isIdentifier part = true)
    (hkeywords : ∀ part ∈ first :: others, isKeyword part = false) :
    Program.read? (importLine support) =
      .ok [.loadFrom 0 ((first :: others).map wordName) (some takenNames)] := by
  obtain ⟨bound, hbound⟩ := exists_bound h
  have hrules := rules_bound (bound + 50 + others.length) (bound + 50 + others.length)
  have hnames : ∀ part ∈ first :: others, wordToken part = .name (wordName part) :=
    fun part hpart => wordToken_of_name (hparts part hpart) (hkeywords part hpart)
  have hread := statementsUntil_from
    (hrules.trans (by omega : _ = bound + 48 + others.length + 2)) (importFrom_names hrules hnames)
  unfold Program.read?
  simp only [tokens_importLine h hparts, hbound, hread]

theorem read?_of_keyword (h : IsPieces '.' (first :: others) support.toList)
    (hparts : ∀ part ∈ first :: others, isIdentifier part = true)
    (hkeyword : ∃ part ∈ first :: others, isKeyword part = true) :
    Program.read? (importLine support) = .error .form := by
  obtain ⟨bound, hbound⟩ := exists_bound h
  have hrules := rules_bound (bound + 50 + others.length) (bound + 50 + others.length)
  obtain ⟨word, rest, herror⟩ : ∃ word rest, importFromStatement
      (rules (bound + 50 + others.length) (bound + 50 + others.length))
      (pathTokens first others ++ .keyword "import" :: takenTokens) =
        .error { rest := .keyword word :: rest } :=
    importFrom_keyword (hrules.trans (by omega : _ = bound + 49 + 1 + others.length)) hparts
      hkeyword
  have hread := statementsUntil_from_error
    (hrules.trans (by omega : _ = bound + 49 + others.length + 1)) herror
  unfold Program.read?
  simp only [tokens_importLine h hparts, hbound, hread]
  rfl

/-- The line can be read unless a part of the path is a keyword, and it is sound unless it asks for
features of the language. -/
theorem ofText?_importLine (h : IsPieces '.' (first :: others) support.toList)
    (hparts : ∀ part ∈ first :: others, isIdentifier part = true) (program : Program) :
    Program.ofText? (importLine support) = .ok program ↔
      (∀ part ∈ first :: others, isKeyword part = false) ∧
        (first :: others).map wordName ≠ ["__future__"] ∧
        program = [.loadFrom 0 ((first :: others).map wordName) (some takenNames)] := by
  obtain ⟨bound, hbound⟩ := exists_bound h
  have hlength : (importLine support).length + 2 = (bound + 49 + others.length) + 1 := by omega
  unfold Program.ofText?
  by_cases hkeyword : ∃ part ∈ first :: others, isKeyword part = true
  · rw [read?_of_keyword h hparts hkeyword]
    constructor
    · nofun
    · intro hok
      obtain ⟨part, hpart, hkeyword⟩ := hkeyword
      exact absurd ((hok.1 part hpart).symm.trans hkeyword) Bool.false_ne_true
  · have hkeywords : ∀ part ∈ first :: others, isKeyword part = false := by
      intro part hpart
      rw [← Bool.not_eq_true]
      exact fun hk => hkeyword ⟨part, hpart, hk⟩
    rw [read?_of_names h hparts hkeywords]
    by_cases hfuture : (first :: others).map wordName = ["__future__"]
    · simp only [ok_bind, hlength, hfuture, isSound_future]
      exact ⟨nofun, fun hok => absurd rfl hok.2.1⟩
    · simp only [ok_bind, hlength, isSound_loadFrom _ hfuture, if_true, pure_eq_ok]
      exact ⟨fun hp => ⟨hkeywords, hfuture, hp.symm⟩, fun hok => hok.2.2.symm⟩

end

/-! ## Parameters -/

/-- Whatever parameter is accepted, the module of the support is a path of identifiers. All modules
that are generated have a line that imports names from it. That line is a statement as long as no
part of the path is a keyword and the path is not the module of the features of the language, none
of which has such a name. -/
theorem ofParameter_importLine {parameter : String} {settings : Settings}
    (h : Settings.ofParameter parameter = .ok settings) :
    ∃ parts, IsPieces '.' parts settings.runtimeModule.toList ∧
      (∀ part ∈ parts, isIdentifier part = true) ∧
      (∀ file tools text, moduleText file settings tools = .ok text →
        ∃ front back, text = front ++ importLine settings.runtimeModule ++ back ∧
          front.toList.getLast? = some '\n') ∧
      ∀ program, Program.ofText? (importLine settings.runtimeModule) = .ok program ↔
        (∀ part ∈ parts, isKeyword part = false) ∧ parts.map wordName ≠ ["__future__"] ∧
          program = [.loadFrom 0 (parts.map wordName) (some takenNames)] := by
  obtain ⟨parts, hpieces, hparts⟩ := Settings.runtimeModule_of_ofParameter h
  refine ⟨parts, hpieces, hparts, fun _ _ _ htext => exists_moduleText htext, ?_⟩
  obtain ⟨first, others, rfl⟩ := List.exists_cons_of_ne_nil hpieces.ne_nil
  exact ofText?_importLine hpieces hparts

theorem ofParameter_importLine_dotted :
    Settings.ofParameter "runtime_module = depot.class_tools" =
        .ok { runtimeModule := "depot.class_tools" } ∧
      Program.ofText? (importLine "depot.class_tools") =
        .ok [.loadFrom 0 ["depot", "class_tools"] (some takenNames)] := by
  have hok : Settings.ofParameter "runtime_module = depot.class_tools" =
      .ok { runtimeModule := "depot.class_tools" } := by decide +kernel
  obtain ⟨parts, hpieces, _, _, hread⟩ := ofParameter_importLine hok
  have hparts : parts = ["depot".toList, "class_tools".toList] := by
    rw [← splitOn_eq_iff.2 hpieces]
    decide +kernel
  have hnames : parts.map wordName = ["depot", "class_tools"] := by
    rw [hparts]
    decide +kernel
  refine ⟨hok, (hread _).2 ⟨?_, ?_, ?_⟩⟩
  · rw [hparts]
    decide +kernel
  · rw [hnames]
    decide
  · rw [hnames]

/-- A keyword is an identifier, so it is accepted, and then the line is no statement. -/
theorem ofParameter_keyword :
    Settings.ofParameter "runtime_module=class" = .ok { runtimeModule := "class" } ∧
      isKeyword "class".toList = true ∧
      ∀ program, Program.ofText? (importLine "class") ≠ .ok program := by
  have hpieces : IsPieces '.' ["class".toList] "class".toList :=
    splitOn_eq_iff.1 (by decide +kernel)
  have hkeyword : isKeyword "class".toList = true := by decide +kernel
  refine ⟨by decide +kernel, hkeyword, fun program hok => ?_⟩
  have hread := (ofText?_importLine hpieces (by decide +kernel) program).1 hok
  exact Bool.false_ne_true ((hread.1 _ List.mem_cons_self).symm.trans hkeyword)

end ToolBindings
