import ToolBindings.Proofs.Script.Lexemes

/-!
# Scripts put together from lines

A script is empty lines, comments, and lines of code at a level. From line to line the level goes up
by one at most, and it comes down by as many blocks as are closed.

* `Line`, `lineTokens`: lines, and the tokens of lines one behind the other.
* `enterLine_blocksAt`: the blocks that a line opens or closes.
* `tokensWithin_lines`: lines are read one by one.
* `tokens_lines`: the tokens of a script.
* `tokens_cut`: those of a script with a line whose brackets do not fit.
-/
namespace ToolBindings.Script

/-! ## Lines -/

/-- What pieces have to be to be a line of code. -/
structure IsCode (lexemes : List Lexeme) : Prop where
  valid : ∀ lexeme ∈ lexemes, lexeme.IsValid
  fits : Lexeme.fits lexemes (.char '\n') = true
  brackets : Lexeme.bracketsThrough? [] lexemes = some []
  head : ∀ d, Lexeme.headOf lexemes (.char '\n') = .char d → d ∉ lineMarks

/-- A line of a script. -/
inductive Line where
  | empty
  /-- A comment, behind its sign. -/
  | comment (chars : List Char)
  /-- Code that stands so many levels deep. -/
  | code (level : Nat) (lexemes : List Lexeme)

namespace Line

def chars : Line → List Char
  | empty => ['\n']
  | comment chars => '#' :: chars ++ ['\n']
  | code level lexemes => List.replicate (4 * level) ' ' ++ lexemeChars lexemes ++ ['\n']

/-- The level of the blocks that are open behind a line. -/
def levelAfter (level : Nat) : Line → Nat
  | code level _ => level
  | _ => level

/-- The tokens with which code begins that is at another level than the code before. -/
def margin (before level : Nat) : List Token :=
  if level = before + 1 then [.indent] else List.replicate (before - level) .dedent

def tokens (before : Nat) : Line → List Token
  | code level lexemes => margin before level ++ lexemeTokens lexemes ++ [.newline]
  | _ => []

/-- What a line behind code at a level has to be. -/
def IsValid (before : Nat) : Line → Prop
  | empty => True
  | comment chars => '\n' ∉ chars ∧ '\r' ∉ chars ∧ '\x00' ∉ chars
  | code level lexemes => level ≤ before + 1 ∧ level < maxBlocks ∧ IsCode lexemes

/-- How many steps of the lexer a line takes. -/
def steps : Line → Nat
  | code _ lexemes => lexemeSteps lexemes + 2
  | _ => 1

end Line

/-- How many steps of the lexer lines take. -/
def lineSteps : List Line → Nat
  | [] => 0
  | line :: rest => line.steps + lineSteps rest

/-- The tokens of lines behind code at a level, and those of what stands behind them. -/
def lineTokens (last : Nat → List Token) (level : Nat) : List Line → List Token
  | [] => last level
  | line :: rest => line.tokens level ++ lineTokens last (line.levelAfter level) rest

/-- The tokens with which a script ends behind code at a level. -/
def ending (level : Nat) : List Token := List.replicate level .dedent ++ [.finish]

/-- Whether lines can stand one behind the other. -/
def AreLines (level : Nat) : List Line → Prop
  | [] => True
  | line :: rest => line.IsValid level ∧ AreLines (line.levelAfter level) rest

/-! ## Blocks -/

def marginAt (level : Nat) : Margin := ⟨4 * level, 4 * level⟩

def blocksAt : Nat → List Margin
  | 0 => []
  | level + 1 => marginAt (level + 1) :: blocksAt level

theorem length_blocksAt (level : Nat) : (blocksAt level).length = level := by
  induction level with
  | zero => rfl
  | succ level ih => rw [blocksAt, List.length_cons, ih]

/-- The column of the innermost block. -/
theorem outer_blocksAt (level : Nat) :
    ((blocksAt level).head?.map Margin.column).getD 0 = 4 * level := by
  cases level <;> rfl

theorem enterLine_same (level : Nat) :
    enterLine (marginAt level) (blocksAt level) = .ok ([], blocksAt level) := by
  cases level with
  | zero => rfl
  | succ level => rw [blocksAt, enterLine, if_pos rfl, if_pos rfl]

theorem enterLine_deeper {level : Nat} (h : level + 1 < maxBlocks) :
    enterLine (marginAt (level + 1)) (blocksAt level) = .ok ([.indent], blocksAt (level + 1)) := by
  cases level with
  | zero => rfl
  | succ level =>
    have hcolumn : (marginAt (level + 2)).column ≠ (marginAt (level + 1)).column := by
      simp only [marginAt]; omega
    have hlt : (marginAt (level + 1)).column < (marginAt (level + 2)).column := by
      simp only [marginAt]; omega
    rw [blocksAt, enterLine, if_neg hcolumn, if_pos hlt, length_blocksAt,
      if_neg (Nat.not_le_of_lt (Nat.lt_of_succ_lt h))]
    exact if_pos hlt

/-- Block by block the induction closes those that are deeper than the line. -/
theorem enterLine_shallower (level more : Nat) :
    enterLine (marginAt level) (blocksAt (level + more)) =
      .ok (List.replicate more .dedent, blocksAt level) := by
  induction more with
  | zero => exact enterLine_same level
  | succ more ih =>
    have hcolumn : (marginAt level).column ≠ (marginAt (level + more + 1)).column := by
      simp only [marginAt]; omega
    have hlt : ¬ (marginAt (level + more + 1)).column < (marginAt level).column := by
      simp only [marginAt]; omega
    rw [← Nat.add_assoc, blocksAt, enterLine, if_neg hcolumn, if_neg hlt, outer_blocksAt,
      if_neg (by simp only [marginAt]; omega), ih, List.replicate_succ]
    rfl

theorem enterLine_blocksAt {before level : Nat} (h : level ≤ before + 1)
    (hmax : level < maxBlocks) :
    enterLine (marginAt level) (blocksAt before) =
      .ok (Line.margin before level, blocksAt level) := by
  unfold Line.margin
  obtain rfl | hle := Nat.eq_or_lt_of_le h
  · rw [if_pos rfl, enterLine_deeper hmax]
  · have hback : before = level + (before - level) := by omega
    rw [if_neg (Nat.ne_of_lt hle)]
    conv => lhs; rw [hback]
    exact enterLine_shallower level (before - level)

/-! ## Line by line -/

section
variable {before : Nat} {line : Line} {lines : List Line} {rest : List Char}

theorem tokensWithin_empty (bound : Nat) (blocks : List Margin) (rest : List Char) :
    tokensWithin (bound + 1) blocks [] true ('\n' :: rest) =
      tokensWithin bound blocks [] true rest := by
  rw [tokensWithin]
  simp [Margin.read, dropLine]

theorem tokensWithin_remark {chars : List Char} (h : '\n' ∉ chars) (bound : Nat)
    (blocks : List Margin) (rest : List Char) :
    tokensWithin (bound + 1) blocks [] true ('#' :: chars ++ ['\n'] ++ rest) =
      tokensWithin bound blocks [] true rest := by
  have hdrop : dropLine ('#' :: chars ++ ['\n'] ++ rest) = '\n' :: rest := by
    rw [dropLine, List.append_assoc, List.dropWhile_append_of_pos]
    · rfl
    · intro c hc
      rw [List.mem_cons] at hc
      obtain rfl | hc := hc
      · rfl
      · exact decide_eq_true fun heq => h (heq ▸ hc)
  have hread : Margin.read {} 0 ('#' :: chars ++ ['\n'] ++ rest) =
      .ok ({}, '#' :: chars ++ ['\n'] ++ rest) := rfl
  rw [tokensWithin, hread]
  simp only [hdrop]
  rfl

/-- A line of code begins with what it opens and closes. -/
theorem tokensWithin_margin {level : Nat} (hlevel : level ≤ before + 1) (hmax : level < maxBlocks)
    {cs : List Char} (hmarks : ∀ c ∈ cs.head?, c ∉ lineMarks) (bound : Nat) :
    tokensWithin (bound + 1) (blocksAt before) [] true (List.replicate (4 * level) ' ' ++ cs) =
      Line.margin before level ++ tokensWithin bound (blocksAt level) [] false cs := by
  have hread := Margin.read_blanks hmarks (4 * level) {}
  have hmark : ¬ (cs.head? = some '#' ∨ cs.head? = some '\n') := by
    rintro (h | h)
    · exact hmarks '#' (h ▸ rfl) (by decide)
    · exact hmarks '\n' (h ▸ rfl) (by decide)
  have hmargin : (⟨({} : Margin).column + 4 * level, ({} : Margin).narrow + 4 * level⟩ : Margin) =
      marginAt level := by
    simp [marginAt]
  rw [tokensWithin, hread, hmargin]
  simp only [ne_eq, not_true, if_false, if_neg hmark, enterLine_blocksAt hlevel hmax]

theorem tokensWithin_code {level : Nat} {lexemes : List Lexeme} (hlevel : level ≤ before + 1)
    (hmax : level < maxBlocks) (hcode : IsCode lexemes) (bound : Nat) (rest : List Char) :
    tokensWithin (bound + (lexemeSteps lexemes + 2)) (blocksAt before) [] true
        ((Line.code level lexemes).chars ++ rest) =
      (Line.code level lexemes).tokens before ++
        tokensWithin bound (blocksAt level) [] true rest := by
  have hlast : ∀ c ∈ ('\n' :: rest).head?, Head.Admits c (.char '\n') := by rintro _ ⟨⟩; rfl
  have hmarks : ∀ c ∈ (lexemeChars lexemes ++ '\n' :: rest).head?, c ∉ lineMarks := fun c hc =>
    (head_lexemeChars hcode.valid hlast c hc).not_mem (by decide) hcode.head
  have hcuts : Cuts (blocksAt level) [] [] (lexemeSteps lexemes)
      (lexemeChars lexemes ++ '\n' :: rest) (lexemeTokens lexemes) ('\n' :: rest) :=
    cuts_lexemes hcode.valid hcode.fits hlast hcode.brackets
  have hchars : (Line.code level lexemes).chars ++ rest =
      List.replicate (4 * level) ' ' ++ (lexemeChars lexemes ++ '\n' :: rest) := by
    simp [Line.chars]
  have hnewline : tokensWithin (bound + 1) (blocksAt level) [] false ('\n' :: rest) =
      .newline :: tokensWithin bound (blocksAt level) [] true rest := by
    rw [tokensWithin, if_pos rfl]
  have hsteps : bound + (lexemeSteps lexemes + 2) = bound + 1 + lexemeSteps lexemes + 1 := by omega
  rw [hchars, hsteps, tokensWithin_margin hlevel hmax hmarks, hcuts, hnewline, Line.tokens]
  simp only [List.append_assoc, List.singleton_append]

theorem tokensWithin_oneLine (hline : line.IsValid before) (bound : Nat) (rest : List Char) :
    tokensWithin (bound + line.steps) (blocksAt before) [] true (line.chars ++ rest) =
      line.tokens before ++
        tokensWithin bound (blocksAt (line.levelAfter before)) [] true rest := by
  cases line with
  | empty => exact tokensWithin_empty bound _ rest
  | comment chars => exact tokensWithin_remark hline.1 bound _ rest
  | code level lexemes => exact tokensWithin_code hline.1 hline.2.1 hline.2.2 bound rest

/-- The induction is on the lines; the level goes from each to the next. -/
theorem tokensWithin_lines (hlines : AreLines before lines) {last : Nat → List Token} {bound : Nat}
    (hlast : ∀ level, tokensWithin bound (blocksAt level) [] true rest = last level) :
    tokensWithin (bound + lineSteps lines) (blocksAt before) [] true
      (lines.flatMap Line.chars ++ rest) = lineTokens last before lines := by
  induction lines generalizing before with
  | nil => exact hlast before
  | cons line lines ih =>
    obtain ⟨hline, hlines⟩ := hlines
    have hsteps : bound + (line.steps + lineSteps lines) =
        bound + lineSteps lines + line.steps := by omega
    rw [lineSteps, List.flatMap_cons, List.append_assoc, lineTokens, hsteps,
      tokensWithin_oneLine hline, ih hlines]

/-- At its end a script closes all blocks. -/
theorem tokensWithin_nil (bound level : Nat) :
    tokensWithin (bound + 2) (blocksAt level) [] true [] = ending level := by
  have henter := enterLine_shallower 0 level
  rw [Nat.zero_add] at henter
  have hread : Margin.read {} 0 [] = .ok (marginAt 0, []) := rfl
  rw [ending, tokensWithin, hread]
  simp only [ne_eq, not_true, if_false, List.head?_nil, reduceCtorEq, or_self, henter]
  rfl

theorem steps_le (hline : line.IsValid before) : line.steps ≤ 2 * line.chars.length := by
  cases line with
  | empty => decide
  | comment chars => simp [Line.steps, Line.chars]; omega
  | code level lexemes =>
    have hle := lexemeSteps_le hline.2.2.valid
    simp only [Line.steps, Line.chars, List.length_append, List.length_replicate, List.length_cons,
      List.length_nil]
    omega

theorem lineSteps_le (hlines : AreLines before lines) :
    lineSteps lines ≤ 2 * (lines.flatMap Line.chars).length := by
  induction lines generalizing before with
  | nil => exact Nat.zero_le _
  | cons line lines ih =>
    obtain ⟨hline, hlines⟩ := hlines
    have hfirst := steps_le hline
    have hrest := ih hlines
    rw [lineSteps, List.flatMap_cons, List.length_append]
    omega

/-- A level that is entered is paid for by its blanks, so lines have no more tokens than
characters. -/
theorem length_tokens_le (hline : line.IsValid before) :
    (line.tokens before).length + line.levelAfter before ≤ line.chars.length + before := by
  cases line with
  | empty | comment chars => simp [Line.tokens, Line.levelAfter]
  | code level lexemes =>
    obtain ⟨hlevel, -, hcode⟩ := hline
    have hle := length_lexemeTokens_le hcode.valid
    simp only [Line.tokens, Line.margin, Line.levelAfter, Line.chars, List.length_append,
      List.length_replicate, List.length_singleton]
    split
    · rw [List.length_singleton]
      omega
    · rw [List.length_replicate]
      omega

theorem length_lineTokens_le (hlines : AreLines before lines) {last : Nat → List Token} {size : Nat}
    (hlast : ∀ level, (last level).length ≤ size + level) :
    (lineTokens last before lines).length ≤ (lines.flatMap Line.chars).length + size + before := by
  induction lines generalizing before with
  | nil => simpa [lineTokens] using hlast before
  | cons line lines ih =>
    obtain ⟨hline, hlines⟩ := hlines
    have hfirst := length_tokens_le hline
    have hrest := ih hlines
    rw [lineTokens, List.length_append, List.flatMap_cons, List.length_append]
    omega

theorem length_ending_le (level : Nat) : (ending level).length ≤ 1 + level := by
  rw [ending, List.length_append, List.length_replicate, List.length_singleton, Nat.add_comm]

theorem not_mem_line (hline : line.IsValid before) :
    '\r' ∉ line.chars ∧ '\x00' ∉ line.chars := by
  cases line with
  | empty => decide
  | comment chars =>
    obtain ⟨-, hreturn, hzero⟩ := hline
    simp [Line.chars, hreturn, hzero]
  | code level lexemes =>
    have hchars := not_mem_lexemeChars hline.2.2.valid
    simp only [Line.chars, List.mem_append, List.mem_replicate, List.mem_singleton, not_or, not_and]
    exact ⟨⟨⟨fun _ => by decide, hchars.1⟩, by decide⟩, ⟨fun _ => by decide, hchars.2⟩, by decide⟩

theorem not_mem_lines (hlines : AreLines before lines) :
    '\r' ∉ lines.flatMap Line.chars ∧ '\x00' ∉ lines.flatMap Line.chars := by
  induction lines generalizing before with
  | nil => exact ⟨List.not_mem_nil, List.not_mem_nil⟩
  | cons line lines ih =>
    obtain ⟨hline, hlines⟩ := hlines
    rw [List.flatMap_cons, List.mem_append, List.mem_append, not_or, not_or]
    exact ⟨⟨(not_mem_line hline).1, (ih hlines).1⟩, (not_mem_line hline).2, (ih hlines).2⟩

/-- Every line ends in a line feed. -/
theorem getLast?_lines (hne : lines ≠ []) :
    (lines.flatMap Line.chars).getLast? = some '\n' := by
  have hline (line : Line) : ∃ front, line.chars = front ++ ['\n'] := by
    cases line with
    | empty => exact ⟨[], rfl⟩
    | comment chars => exact ⟨'#' :: chars, rfl⟩
    | code level lexemes => exact ⟨_, rfl⟩
  obtain ⟨front, last, rfl⟩ := List.eq_nil_or_concat lines |>.resolve_left hne
  obtain ⟨chars, hchars⟩ := hline last
  rw [List.concat_eq_append, List.flatMap_append, List.flatMap_singleton, hchars,
    ← List.append_assoc, List.getLast?_concat]

end

/-- A text is made of lines, the last of which may lack its end. -/
def IsTextOf (text : String) (lines : List Line) : Prop :=
  text.toList = lines.flatMap Line.chars ∨
    text.toList.getLast? ≠ some '\n' ∧ text.toList ++ ['\n'] = lines.flatMap Line.chars

/-- The tokens of a script are those of its lines and of what is behind them. -/
theorem tokens_front {lines : List Line} (hlines : AreLines 0 lines) {rest : List Char}
    (hreturn : '\r' ∉ rest) (hzero : '\x00' ∉ rest) {last : Nat → List Token} {text : String}
    (htext : text.toList = lines.flatMap Line.chars ++ rest ∨
      text.toList.getLast? ≠ some '\n' ∧ text.toList ++ ['\n'] = lines.flatMap Line.chars ++ rest)
    (hend : (lines.flatMap Line.chars ++ rest).getLast? = some '\n')
    (hlast : ∀ bound, 2 * rest.length + 2 ≤ bound → ∀ level,
      tokensWithin bound (blocksAt level) [] true rest = last level) :
    tokens text = lineTokens last 0 lines := by
  obtain ⟨hreturnLines, hzeroLines⟩ := not_mem_lines hlines
  have hplain : '\r' ∉ text.toList := by
    have hnot : '\r' ∉ lines.flatMap Line.chars ++ rest := by
      rw [List.mem_append, not_or]
      exact ⟨hreturnLines, hreturn⟩
    obtain heq | ⟨-, heq⟩ := htext
    · rwa [heq]
    · exact fun hm => hnot (heq ▸ List.mem_append_left _ hm)
  have hchars : (if text.toList.getLast? = some '\n' then text.toList else text.toList ++ ['\n']) =
      lines.flatMap Line.chars ++ rest := by
    obtain heq | ⟨hnot, heq⟩ := htext
    · rw [heq, if_pos hend]
    · rw [if_neg hnot, heq]
  have hnone : '\x00' ∉ lines.flatMap Line.chars ++ rest := by
    rw [List.mem_append, not_or]
    exact ⟨hzeroLines, hzero⟩
  have hsteps := lineSteps_le hlines
  obtain ⟨bound, hbound, heq⟩ : ∃ bound, 2 * rest.length + 2 ≤ bound ∧
      2 * (lines.flatMap Line.chars ++ rest).length + 2 =
        bound + lineSteps lines := by
    refine ⟨2 * (lines.flatMap Line.chars ++ rest).length + 2 - lineSteps lines, ?_, ?_⟩
    · rw [List.length_append]; omega
    · rw [List.length_append]; omega
  unfold tokens
  simp only [withLineFeeds_of_not_mem hplain, hchars, if_neg hnone, heq]
  exact tokensWithin_lines hlines (hlast bound hbound)

/-- The tokens of a script are those of its lines. -/
theorem tokens_lines {lines : List Line} (hlines : AreLines 0 lines) (hne : lines ≠ [])
    {text : String} (htext : IsTextOf text lines) : tokens text = lineTokens ending 0 lines := by
  refine tokens_front hlines List.not_mem_nil List.not_mem_nil ?_ ?_ ?_
  · rwa [List.append_nil]
  · rw [List.append_nil]
    exact getLast?_lines hne
  · intro bound hbound level
    obtain ⟨bound, rfl⟩ := Nat.exists_eq_add_of_le' (Nat.le_trans (Nat.le_add_left 2 _) hbound)
    exact tokensWithin_nil bound level

/-! ## Lines that are cut off -/

/-- What pieces have to be to be a line of code up to a sign that does not fit the brackets that are
open there. -/
structure IsCutCode (front : List Lexeme) (c : Char) (back : List Lexeme) : Prop where
  valid : ∀ lexeme ∈ front ++ .sign c :: back, lexeme.IsValid
  fits : Lexeme.fits (front ++ .sign c :: back) (.char '\n') = true
  brackets : ∃ between, Lexeme.bracketsThrough? [] front = some between ∧
    (Lexeme.sign c).bracketsAfter? between = none
  head : ∀ d, Lexeme.headOf (front ++ .sign c :: back) (.char '\n') = .char d → d ∉ lineMarks

/-- The tokens of a script end where a line of code is cut off. -/
theorem tokens_cut {lines : List Line} (hlines : AreLines 0 lines) {front back : List Lexeme}
    {c : Char} (hcode : IsCutCode front c back) {rest : List Char} (hreturn : '\r' ∉ rest)
    (hzero : '\x00' ∉ rest) (hend : ('\n' :: rest).getLast? = some '\n') {text : String}
    (htext : text.toList = lines.flatMap Line.chars ++
        (lexemeChars (front ++ .sign c :: back) ++ '\n' :: rest) ∨
      text.toList.getLast? ≠ some '\n' ∧ text.toList ++ ['\n'] = lines.flatMap Line.chars ++
        (lexemeChars (front ++ .sign c :: back) ++ '\n' :: rest)) :
    tokens text = lineTokens
      (fun level => Line.margin level 0 ++ (lexemeTokens front ++ [.invalid .form true])) 0
      lines := by
  obtain ⟨between, hbetween, hafter⟩ := hcode.brackets
  have hchars := not_mem_lexemeChars hcode.valid
  refine tokens_front hlines ?_ ?_ htext ?_ fun bound hbound level => ?_
  · rw [List.mem_append, List.mem_cons, not_or, not_or]
    exact ⟨hchars.1, by decide, hreturn⟩
  · rw [List.mem_append, List.mem_cons, not_or, not_or]
    exact ⟨hchars.2, by decide, hzero⟩
  · rw [List.getLast?_append_of_ne_nil _ (by simp),
      List.getLast?_append_of_ne_nil _ (List.cons_ne_nil _ _), hend]
  · have hlast : ∀ c ∈ ('\n' :: rest).head?, Head.Admits c (.char '\n') := by rintro _ ⟨⟩; rfl
    have hmarks : ∀ d ∈ (lexemeChars (front ++ .sign c :: back) ++ '\n' :: rest).head?,
        d ∉ lineMarks := fun d hd =>
      (head_lexemeChars hcode.valid hlast d hd).not_mem (by decide) hcode.head
    have hsteps : lexemeSteps front ≤
        2 * (lexemeChars (front ++ .sign c :: back)).length := by
      have hle := lexemeSteps_le (List.forall_mem_append.1 hcode.valid).1
      rw [lexemeChars, List.flatMap_append, List.length_append]
      rw [lexemeChars] at hle
      omega
    rw [List.length_append, List.length_cons] at hbound
    obtain ⟨more, rfl⟩ : ∃ more, bound = more + 1 + lexemeSteps front + 1 :=
      ⟨bound - (lexemeSteps front + 2), by omega⟩
    have hmargin := tokensWithin_margin (Nat.zero_le _ : 0 ≤ level + 1) (by decide)
      hmarks (more + 1 + lexemeSteps front)
    rw [Nat.mul_zero, List.replicate_zero, List.nil_append] at hmargin
    rw [hmargin, tokensWithin_lexemes hcode.valid hcode.fits hlast hbetween hafter]

end ToolBindings.Script
