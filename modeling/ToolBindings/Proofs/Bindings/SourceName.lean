import ToolBindings.Bindings.Use
import ToolBindings.Generation
import ToolBindings.Proofs.Bindings.Names
import ToolBindings.Proofs.Script.Quotation
import ToolBindings.Script.Reader.Text

/-!
# The places of the source's name

The name of the file that a module was made from stands in it three times as it is: in a comment,
in the description of the module and in that of its last function. Whether these end where they are
meant to depends on the name.

* `sourceLine`, `descriptionLine`, `exists_places`: the three lines.
* `dropLine_sourceLine_iff`: the comment ends with its line if the name stays on one.
* `readToken_descriptionLine_iff`: a description ends with its line if the name has no free quotes.
* `chars?_descriptionBody`: what a description says, and that its escapes are those of the name.
* `tokens_front`: the tokens with which a module begins.
* `moduleText_places`: what becomes of the name in an accepted module.
-/
namespace ToolBindings
open Script

/-! ## The lines -/

def generatedLine : String := "# Code generated by protoc-gen-tools. DO NOT EDIT.\n"

def sourceLine (source : String) : String := "# source: " ++ source ++ "\n"

/-- What the description of a module says in front of the name. -/
def moduleOpening : String := "Agent tool bindings for "

/-- What the description of a module's last function says in front of the name. -/
def aggregatorOpening : String := "Construct every tool declared in "

/-- What descriptions say in front of the name. -/
def openings : List String := [moduleOpening, aggregatorOpening]

def descriptionLine (opening source : String) : String :=
  "\"\"\"" ++ opening ++ source ++ ".\"\"\"\n"

/-- What a description has between its quotes, with its lines as they are read. -/
def descriptionBody (opening source : String) : List Char :=
  opening.toList ++ withLineFeeds source.toList ++ ['.']

theorem exists_header_eq (source support : String) : ∃ middle, Module.header source support =
    generatedLine ++ sourceLine source ++ descriptionLine moduleOpening source ++ middle := by
  have hquotes : "\"\"\"Agent tool bindings for " = "\"\"\"" ++ moduleOpening := rfl
  have hend : ".\"\"\"\n\n" = ".\"\"\"\n" ++ "\n" := rfl
  refine ⟨"\n" ++ "from __future__ import annotations\n\n" ++ "import functools\n" ++
    "from typing import Any\n\n" ++ "from " ++ support ++ " import (\n" ++
    String.join (supportNames.map fun name => "    " ++ name ++ ",\n") ++ ")\n\n", ?_⟩
  rw [header_eq, hquotes, hend, generatedLine, sourceLine, descriptionLine]
  simp only [String.append_assoc]

theorem exists_aggregate_eq (name source : String) (constructors : List String) :
    ∃ front back, (Definition.aggregate source constructors).render name =
      front ++ descriptionLine aggregatorOpening source ++ back ++ "    ]\n" := by
  have hquotes : "    \"\"\"Construct every tool declared in " =
      "    " ++ ("\"\"\"" ++ aggregatorOpening) := rfl
  refine ⟨"\n\ndef " ++ name ++ "(impl: Any) -> list[Tool]:\n" ++ "    ", "    return [\n" ++
    String.join (constructors.map fun constructor => "        " ++ constructor ++ "(impl),\n"), ?_⟩
  unfold Definition.render descriptionLine
  rw [hquotes]
  simp only [String.append_assoc]

/-- The name stands in the comment and in both descriptions. -/
theorem exists_places {file : File} {settings : Settings} {tools : List Tool} {text : String}
    (h : moduleText file settings tools = .ok text) :
    ∃ middle back, text = generatedLine ++ sourceLine file.name ++
      descriptionLine moduleOpening file.name ++ middle ++
        descriptionLine aggregatorOpening file.name ++ back ++ "    ]\n" := by
  obtain ⟨m, hm, rfl⟩ := map_eq_ok.1 h
  obtain ⟨definitions, -, hm⟩ := bind_eq_ok.1 hm
  cases hm
  obtain ⟨middle, hmiddle⟩ := exists_header_eq file.name settings.runtimeModule
  obtain ⟨front, back, hback⟩ := exists_aggregate_eq (Naming.aggregatorName file.name) file.name
    (tools.map fun tool => Naming.constructorName tool.service tool.method)
  have hjoin :
      String.join [front ++ descriptionLine aggregatorOpening file.name ++ back ++ "    ]\n"] =
        front ++ (descriptionLine aggregatorOpening file.name ++ (back ++ "    ]\n")) := by
    rw [String.join_cons, String.join_nil, String.append_empty]
    simp only [String.append_assoc]
  rw [Module.render, hmiddle, List.map_append, List.map_singleton, String.join_append]
  simp only [hback, hjoin]
  refine ⟨middle ++ (String.join (List.map (fun x => Definition.render x.fst x.snd)
    (List.map Tool.nameDefinition tools ++ definitions.flatten)) ++ front), back, ?_⟩
  simp only [String.append_assoc]

/-! ## The comment -/

section
variable {opening source : String}

theorem toList_sourceLine (source : String) :
    (sourceLine source).toList = "# source: ".toList ++ source.toList ++ ['\n'] := by
  rw [sourceLine, String.toList_append, String.toList_append]
  rfl

/-- Behind the comment goes on what is behind its line, unless the name does not stay on one. -/
theorem dropLine_sourceLine_iff (source : String) (rest : List Char) :
    dropLine (withLineFeeds ((sourceLine source).toList ++ rest)) = '\n' :: withLineFeeds rest ↔
      StaysOnLine source.toList := by
  rw [toList_sourceLine, List.append_assoc, List.singleton_append]
  exact dropLine_comment_iff (by decide) (by decide) _ _

/-! ## The descriptions -/

/-- No opening of a description ends a line or a text. -/
theorem plain_of_mem_openings (h : opening ∈ openings) :
    ∀ c ∈ opening.toList, c ≠ '\r' ∧ c ≠ '\\' ∧ c ≠ '"' := by
  have hall : openings.all (fun opening =>
      opening.toList.all fun c => c ≠ '\r' ∧ c ≠ '\\' ∧ c ≠ '"') = true := by decide
  intro c hc
  exact of_decide_eq_true (List.all_eq_true.1 (List.all_eq_true.1 hall opening h) c hc)

theorem toList_descriptionLine (opening source : String) :
    (descriptionLine opening source).toList = '"' :: '"' :: '"' ::
      (opening.toList ++ (source.toList ++ ['.', '"', '"', '"', '\n'])) := by
  have hquotes : "\"\"\"".toList = ['"', '"', '"'] := rfl
  have hend : ".\"\"\"\n".toList = ['.', '"', '"', '"', '\n'] := rfl
  rw [descriptionLine, String.toList_append, String.toList_append, String.toList_append, hquotes,
    hend, List.append_assoc, List.append_assoc]
  rfl

/-- Of a description only the name can have line ends of other kinds. -/
theorem withLineFeeds_descriptionLine (h : opening ∈ openings) (source : String)
    (rest : List Char) :
    withLineFeeds ((descriptionLine opening source).toList ++ rest) = '"' :: '"' :: '"' ::
      (opening.toList ++ withLineFeeds source.toList ++
        '.' :: '"' :: '"' :: '"' :: '\n' :: withLineFeeds rest) := by
  have hopening : '\r' ∉ '"' :: '"' :: '"' :: opening.toList := by
    simp only [List.mem_cons, not_or]
    exact ⟨by decide, by decide, by decide, fun hm => (plain_of_mem_openings h _ hm).1 rfl⟩
  have hend : '\r' ∉ ['.', '"', '"', '"', '\n'] := by decide
  rw [toList_descriptionLine]
  calc withLineFeeds ('"' :: '"' :: '"' :: (opening.toList ++
          (source.toList ++ ['.', '"', '"', '"', '\n'])) ++ rest)
      = withLineFeeds ('"' :: '"' :: '"' :: opening.toList ++
          (source.toList ++ (['.', '"', '"', '"', '\n'] ++ rest))) := by
        simp only [List.cons_append, List.append_assoc]
    _ = '"' :: '"' :: '"' :: opening.toList ++ (withLineFeeds source.toList ++
          (['.', '"', '"', '"', '\n'] ++ withLineFeeds rest)) := by
        rw [withLineFeeds_append_of_not_mem hopening,
          withLineFeeds_append (show _ ≠ some '\n' by nofun),
          withLineFeeds_append_of_not_mem hend]
    _ = _ := by simp only [List.cons_append, List.nil_append, List.append_assoc]

/-- A description is one text that ends with its line, unless the name has free quotes. -/
theorem readToken_descriptionLine_iff (h : opening ∈ openings) (source : String)
    (brackets rest : List Char) :
    readToken brackets (withLineFeeds ((descriptionLine opening source).toList ++ rest)) =
        (.text {} (descriptionBody opening source), brackets, '\n' :: withLineFeeds rest) ↔
      hasFreeQuotes source.toList = false := by
  have hplain : ∀ c ∈ opening.toList, c ≠ '\\' ∧ c ≠ '"' :=
    fun c hc => (plain_of_mem_openings h c hc).2
  rw [withLineFeeds_descriptionLine h, descriptionBody, readToken_quotes_iff,
    hasFreeQuotes_append hplain, hasFreeQuotes_withLineFeeds]

/-- A description says what the name means between its opening and a dot; if the escapes of the name
are malformed, then those of the description are. -/
theorem chars?_descriptionBody (h : opening ∈ openings) (source : String) :
    TextKind.chars? {} (descriptionBody opening source) =
      (unescaped? false (withLineFeeds source.toList)).map fun value =>
        opening.toList ++ value ++ ['.'] := by
  have hplain : '\\' ∉ opening.toList := fun hm => (plain_of_mem_openings h _ hm).2.1 rfl
  show unescaped? false _ = _
  rw [descriptionBody, unescaped?_dot, unescaped?_append hplain, Option.map_map]
  rfl

end

/-! ## The first tokens -/

section
variable {source : String} {rest : List Char}

theorem tokensWithin_generatedLine (bound : Nat) (rest : List Char) :
    tokensWithin (bound + 1) [] [] true (withLineFeeds (generatedLine.toList ++ rest)) =
      tokensWithin bound [] [] true (withLineFeeds rest) := by
  have hline : generatedLine.toList =
      "# Code generated by protoc-gen-tools. DO NOT EDIT.".toList ++ [] ++ ['\n'] := rfl
  refine tokensWithin_comment ?_ ?_ bound
  · rw [withLineFeeds_append_of_not_mem (by decide)]
    rfl
  · rw [hline, List.append_assoc]
    exact (dropLine_comment_iff (by decide) (by decide) _ _).2 (by decide)

theorem tokensWithin_sourceLine (h : StaysOnLine source.toList) (bound : Nat) (rest : List Char) :
    tokensWithin (bound + 1) [] [] true (withLineFeeds ((sourceLine source).toList ++ rest)) =
      tokensWithin bound [] [] true (withLineFeeds rest) := by
  refine tokensWithin_comment ?_ ((dropLine_sourceLine_iff source rest).2 h) bound
  rw [toList_sourceLine, List.append_assoc, List.append_assoc,
    withLineFeeds_append_of_not_mem (by decide)]
  rfl

theorem tokensWithin_descriptionLine {opening : String} (hopening : opening ∈ openings)
    (h : hasFreeQuotes source.toList = false) (bound : Nat) (rest : List Char) :
    tokensWithin (bound + 3) [] [] true
        (withLineFeeds ((descriptionLine opening source).toList ++ rest)) =
      .text {} (descriptionBody opening source) :: .newline ::
        tokensWithin bound [] [] true (withLineFeeds rest) := by
  have hread := (readToken_descriptionLine_iff hopening source [] rest).2 h
  rw [withLineFeeds_descriptionLine hopening] at hread ⊢
  rw [tokensWithin_line (by decide), cuts_token (by decide) hread nofun]
  rfl

end

/-- Two comments are skipped; the description of the module is the first token, and its line end the
second. -/
theorem tokens_front {source rest text : String} (hline : StaysOnLine source.toList)
    (hquotes : hasFreeQuotes source.toList = false)
    (htext : text = generatedLine ++ sourceLine source ++ descriptionLine moduleOpening source ++
      rest) (hend : ∃ front, rest = front ++ "    ]\n") (hzero : '\x00' ∉ text.toList) :
    ∃ bound, 2 * (withLineFeeds rest.toList).length + 2 ≤ bound ∧
      tokens text = .text {} (descriptionBody moduleOpening source) :: .newline ::
        tokensWithin bound [] [] true (withLineFeeds rest.toList) := by
  have hlist : text.toList = generatedLine.toList ++ ((sourceLine source).toList ++
      ((descriptionLine moduleOpening source).toList ++ rest.toList)) := by
    rw [htext]
    simp only [String.toList_append, List.append_assoc]
  have hlast : (withLineFeeds text.toList).getLast? = some '\n' := by
    obtain ⟨front, rfl⟩ := hend
    have hfeed : "    ]\n".toList = "    ]".toList ++ ['\n'] := rfl
    rw [hlist, String.toList_append, hfeed]
    simp only [← List.append_assoc]
    exact getLast?_withLineFeeds _
  have hnone : '\x00' ∉ withLineFeeds text.toList := fun hm =>
    hzero ((mem_withLineFeeds hm).resolve_right (by decide))
  have hlength : (withLineFeeds rest.toList).length + 3 ≤ (withLineFeeds text.toList).length := by
    have hhead : ((descriptionLine moduleOpening source).toList ++ rest.toList).head? ≠
        some '\n' := by
      rw [toList_descriptionLine]
      nofun
    rw [hlist, withLineFeeds_append_of_not_mem (by decide), withLineFeeds_append hhead,
      withLineFeeds_descriptionLine List.mem_cons_self]
    simp only [List.length_append, List.length_cons]
    omega
  obtain ⟨bound, hbound⟩ : ∃ bound, 2 * (withLineFeeds text.toList).length + 2 = bound + 5 :=
    Nat.exists_eq_add_of_le' (by omega)
  refine ⟨bound, by omega, ?_⟩
  unfold tokens
  simp only [hlast, if_true, if_neg hnone, hbound]
  rw [hlist, tokensWithin_generatedLine, tokensWithin_sourceLine hline,
    tokensWithin_descriptionLine List.mem_cons_self hquotes]

/-! ## The name in a module -/

/-- Wherever a module is accepted, the name of its source stands in a comment and in two
descriptions. The comment ends with its line exactly if the name stays on one; each description is
one text that ends with its line exactly if the name has no free quotes, and its escapes are well
formed exactly if those of the name are. If comment and description end so, the module begins with
its description, and what follows is read from the next line on. -/
theorem moduleText_places {file : File} {settings : Settings} {tools : List Tool} {text : String}
    (h : moduleText file settings tools = .ok text) :
    ∃ middle back, text = generatedLine ++ sourceLine file.name ++
        descriptionLine moduleOpening file.name ++
          (middle ++ descriptionLine aggregatorOpening file.name ++ back) ∧
      (∀ rest, dropLine (withLineFeeds ((sourceLine file.name).toList ++ rest)) =
          '\n' :: withLineFeeds rest ↔ StaysOnLine file.name.toList) ∧
      (∀ opening ∈ openings,
        (∀ brackets rest, readToken brackets
            (withLineFeeds ((descriptionLine opening file.name).toList ++ rest)) =
              (.text {} (descriptionBody opening file.name), brackets,
                '\n' :: withLineFeeds rest) ↔ hasFreeQuotes file.name.toList = false) ∧
        (TextKind.chars? {} (descriptionBody opening file.name)).isSome =
          (unescaped? false (withLineFeeds file.name.toList)).isSome) ∧
      (StaysOnLine file.name.toList → hasFreeQuotes file.name.toList = false →
        '\x00' ∉ text.toList → ∃ rest bound,
          rest = middle ++ descriptionLine aggregatorOpening file.name ++ back ∧
          2 * (withLineFeeds rest.toList).length + 2 ≤ bound ∧
          tokens text = .text {} (descriptionBody moduleOpening file.name) :: .newline ::
            tokensWithin bound [] [] true (withLineFeeds rest.toList)) := by
  obtain ⟨middle, back, htext⟩ := exists_places h
  have hplaces : text = generatedLine ++ sourceLine file.name ++
      descriptionLine moduleOpening file.name ++
        (middle ++ descriptionLine aggregatorOpening file.name ++ (back ++ "    ]\n")) := by
    rw [htext]
    simp only [String.append_assoc]
  refine ⟨middle, back ++ "    ]\n", hplaces, dropLine_sourceLine_iff file.name, ?_, ?_⟩
  · intro opening hopening
    refine ⟨readToken_descriptionLine_iff hopening file.name, ?_⟩
    rw [chars?_descriptionBody hopening, Option.isSome_map]
  · intro hline hquotes hzero
    obtain ⟨bound, hbound, htokens⟩ := tokens_front hline hquotes hplaces
      ⟨middle ++ descriptionLine aggregatorOpening file.name ++ back, by
        simp only [String.append_assoc]⟩ hzero
    exact ⟨_, bound, rfl, hbound, htokens⟩

theorem moduleText_places_new : ∃ text,
    moduleText { name := "depot/\"new\".proto" } {} [] = .ok text ∧
    ∀ opening ∈ openings, ∀ brackets rest, readToken brackets
        (withLineFeeds ((descriptionLine opening "depot/\"new\".proto").toList ++ rest)) =
      (.text {} (descriptionBody opening "depot/\"new\".proto"), brackets,
        '\n' :: withLineFeeds rest) := by
  refine ⟨_, rfl, fun opening hopening brackets rest => ?_⟩
  obtain ⟨-, -, -, -, hdescription, -⟩ :=
    @moduleText_places { name := "depot/\"new\".proto" } {} [] _ rfl
  exact ((hdescription opening hopening).1 brackets rest).2 (by decide)

/-- A file without tools has a module, whatever its name is. -/
theorem exists_moduleText_nil (source : String) : ∃ text rest,
    moduleText { name := source } {} [] = .ok text ∧ text = generatedLine ++ sourceLine source ++
      (descriptionLine moduleOpening source ++ rest) := by
  obtain ⟨middle, back, htext⟩ := @exists_places { name := source } {} [] _ rfl
  refine ⟨_, middle ++ descriptionLine aggregatorOpening source ++ back ++ "    ]\n", rfl, ?_⟩
  rw [htext]
  simp only [String.append_assoc]

/-- A line end in the name cuts the comment, three quotes in it end the description of the module,
and a backslash in it makes an escape of what follows. -/
theorem moduleText_displaced :
    (∃ text rest, moduleText { name := "a\nb.proto" } {} [] = .ok text ∧
      text = generatedLine ++ sourceLine "a\nb.proto" ++ rest ∧
      dropLine (withLineFeeds ((sourceLine "a\nb.proto").toList ++ rest.toList)) ≠
        '\n' :: withLineFeeds rest.toList) ∧
    (∃ text rest, moduleText { name := "a\"\"\"b.proto" } {} [] = .ok text ∧
      text = generatedLine ++ sourceLine "a\"\"\"b.proto" ++
        (descriptionLine moduleOpening "a\"\"\"b.proto" ++ rest) ∧
      readToken [] (withLineFeeds ((descriptionLine moduleOpening "a\"\"\"b.proto").toList ++
          rest.toList)) ≠
        (.text {} (descriptionBody moduleOpening "a\"\"\"b.proto"), [],
          '\n' :: withLineFeeds rest.toList)) ∧
    ∃ text rest, moduleText { name := "a\\x.proto" } {} [] = .ok text ∧
      text = generatedLine ++ sourceLine "a\\x.proto" ++
        (descriptionLine moduleOpening "a\\x.proto" ++ rest) ∧
      TextKind.chars? {} (descriptionBody moduleOpening "a\\x.proto") = none := by
  have hopening : moduleOpening ∈ openings := List.mem_cons_self
  refine ⟨?_, ?_, ?_⟩
  · obtain ⟨text, rest, hok, htext⟩ := exists_moduleText_nil "a\nb.proto"
    refine ⟨text, _, hok, htext, ?_⟩
    rw [ne_eq, dropLine_sourceLine_iff]
    decide
  · obtain ⟨text, rest, hok, htext⟩ := exists_moduleText_nil "a\"\"\"b.proto"
    refine ⟨text, rest, hok, htext, ?_⟩
    rw [ne_eq, readToken_descriptionLine_iff hopening]
    decide
  · obtain ⟨text, rest, hok, htext⟩ := exists_moduleText_nil "a\\x.proto"
    refine ⟨text, rest, hok, htext, ?_⟩
    have hlist : withLineFeeds "a\\x.proto".toList = 'a' :: '\\' :: "x.proto".toList := rfl
    have hescape : escapeAt? false "x.proto".toList = none := rfl
    rw [chars?_descriptionBody hopening, hlist, unescaped?_cons (by decide), unescaped?, if_pos rfl,
      hescape]
    rfl

end ToolBindings
