import ToolBindings.Wire.RoundTrip

/-!
# The grammar of messages

A message is records one behind the other: each has a tag and a payload of the form that the tag
names, and a group is a message between two tags of one number. That is said here without a reader,
and then a reader that keeps a list of open groups is shown to read just that.

* `IsVarint`, `IsTag`, `IsPayload`, `IsMessage`: the grammar. `Rules` are the field numbers that it
  admits, `Rules.wire` those that the reader admits.
* `read?_eq_some`, `cut?_eq_some`, `Token.read?_eq_some`: what is taken off the front of octets.
* `Closes`: what may follow while groups are open; by `closes_of_scan` and `scan_of_isMessage` the
  reader goes by it.
* `records?_eq_some`: messages are read exactly if they follow the grammar.
* `IsMessage.exists_tag`: the first tag of a message has a number that is admitted.
-/
namespace ToolBindings.Wire

/-! ## The grammar -/

/-- Octets that write a number, seven bits each and the lowest first. The high bit is set on all of
them but the last. -/
inductive IsVarint : Octets → Nat → Prop
  | last {octet : UInt8} (h : octet.toNat < 128) : IsVarint [octet] octet.toNat
  | more {octet : UInt8} {rest : Octets} {n : Nat} (h : 128 ≤ octet.toNat)
    (hrest : IsVarint rest n) : IsVarint (octet :: rest) (octet.toNat % 128 + 128 * n)

/-- A tag of at most five octets, which holds a field number and a form. -/
def IsTag (number form : Nat) (octets : Octets) : Prop :=
  IsVarint octets (8 * number + form) ∧ octets.length ≤ 5

/-- A payload in each form but that of groups: an integer of at most ten octets, of which the lowest
64 bits count, eight or four octets, or a length of at most five octets and as many octets as it
says. -/
inductive IsPayload : (form : Nat) → Octets → Payload → Prop
  | varint {octets : Octets} {n : Nat} (hn : IsVarint octets n) (hlength : octets.length ≤ 10) :
    IsPayload 0 octets (.varint (n % (1 <<< 64)))
  | fixed64 {octets : Octets} (hlength : octets.length = 8) : IsPayload 1 octets (.fixed64 octets)
  | delimited {size octets : Octets} (hsize : IsVarint size octets.length)
    (hlength : size.length ≤ 5) : IsPayload 2 (size ++ octets) (.delimited octets)
  | fixed32 {octets : Octets} (hlength : octets.length = 4) : IsPayload 5 octets (.fixed32 octets)

/-- The field numbers that are admitted outside of all groups and inside them. -/
structure Rules where
  outside : Nat → Prop
  inside : Nat → Prop

/-- Whether a field number is admitted. -/
def Rules.Admits (rules : Rules) (nested : Bool) : Nat → Prop :=
  if nested then rules.inside else rules.outside

/-- The reader admits the numbers for which a tag is below 2^32, but outside of groups not zero. -/
def Rules.wire : Rules where
  outside := IsNumber
  inside number := number < 1 <<< 29

/-- Records one behind the other. Groups lie at most so deep in one another, and a group is a record
without its contents. -/
inductive IsMessage (rules : Rules) : (nested : Bool) → (depth : Nat) → Octets → List Record → Prop
  | nil {nested : Bool} {depth : Nat} : IsMessage rules nested depth [] []
  | record {nested : Bool} {depth number form : Nat} {tag octets rest : Octets} {payload : Payload}
    {records : List Record} (htag : IsTag number form tag) (hadmits : rules.Admits nested number)
    (hpayload : IsPayload form octets payload) (hrest : IsMessage rules nested depth rest records) :
    IsMessage rules nested depth (tag ++ (octets ++ rest)) (⟨number, payload⟩ :: records)
  | group {nested : Bool} {depth number : Nat} {start body finish rest : Octets}
    {inner records : List Record} (hstart : IsTag number 3 start)
    (hadmits : rules.Admits nested number) (hbody : IsMessage rules true depth body inner)
    (hfinish : IsTag number 4 finish) (hrest : IsMessage rules nested (depth + 1) rest records) :
    IsMessage rules nested (depth + 1) (start ++ (body ++ (finish ++ rest)))
      (⟨number, .group⟩ :: records)

/-! ## What is taken off the front -/

theorem IsVarint.ne_nil {octets : Octets} {n : Nat} (h : IsVarint octets n) : octets ≠ [] := by
  cases h <;> exact List.cons_ne_nil _ _

theorem read?_eq_some {limit n : Nat} {octets rest : Octets} :
    Varint.read? limit octets = some (n, rest) ↔
      ∃ front, octets = front ++ rest ∧ IsVarint front n ∧ front.length ≤ limit := by
  induction limit generalizing octets n with
  | zero =>
    simp only [Varint.read?, reduceCtorEq, Nat.le_zero_eq, List.length_eq_zero_iff, false_iff]
    rintro ⟨front, -, hfront, rfl⟩
    exact hfront.ne_nil rfl
  | succ limit ih =>
    constructor
    · intro h
      cases octets with
      | nil => simp [Varint.read?] at h
      | cons octet tail =>
        rw [Varint.read?] at h
        split at h
        · next hlt =>
          simp only [Option.some.injEq, Prod.mk.injEq] at h
          obtain ⟨rfl, rfl⟩ := h
          exact ⟨[octet], rfl, .last hlt, by simp⟩
        · next hge =>
          obtain ⟨⟨high, rest'⟩, hr, he⟩ := Option.map_eq_some_iff.1 h
          simp only [Prod.mk.injEq] at he
          obtain ⟨rfl, rfl⟩ := he
          obtain ⟨front, rfl, hfront, hlength⟩ := ih.1 hr
          exact ⟨octet :: front, rfl, .more (by omega) hfront, by simpa using hlength⟩
    · rintro ⟨front, rfl, hfront, hlength⟩
      cases hfront with
      | last hlt => rw [List.cons_append, Varint.read?, if_pos hlt, List.nil_append]
      | more hge htail =>
        rw [List.length_cons, Nat.add_le_add_iff_right] at hlength
        rw [List.cons_append, Varint.read?, if_neg (by omega), ih.2 ⟨_, rfl, htail, hlength⟩]
        rfl

theorem IsVarint.read? {n : Nat} {octets : Octets} (h : IsVarint octets n) (limit : Nat)
    (hlength : octets.length ≤ limit) (rest : Octets) :
    Varint.read? limit (octets ++ rest) = some (n, rest) :=
  read?_eq_some.2 ⟨octets, rfl, h, hlength⟩

theorem cut?_eq_some {n : Nat} {octets front rest : Octets} :
    cut? n octets = some (front, rest) ↔ octets = front ++ rest ∧ front.length = n := by
  constructor
  · intro h
    induction n generalizing octets front with
    | zero =>
      simp only [cut?, Option.some.injEq, Prod.mk.injEq] at h
      obtain ⟨rfl, rfl⟩ := h
      exact ⟨rfl, rfl⟩
    | succ n ih =>
      cases octets with
      | nil => simp [cut?] at h
      | cons octet tail =>
        obtain ⟨⟨front', rest'⟩, hr, he⟩ := Option.map_eq_some_iff.1 h
        simp only [Prod.mk.injEq] at he
        obtain ⟨rfl, rfl⟩ := he
        obtain ⟨rfl, rfl⟩ := ih hr
        exact ⟨rfl, rfl⟩
  · rintro ⟨rfl, rfl⟩
    exact cut_length front rest

def Token.ofTag? (number form : Nat) (octets : Octets) : Option (Token × Octets) :=
  match form with
  | 0 => (Varint.read? maxValueOctets octets).map fun (value, rest) =>
    (.record ⟨number, .varint (value % (1 <<< 64))⟩, rest)
  | 1 => (cut? 8 octets).map fun (front, rest) => (.record ⟨number, .fixed64 front⟩, rest)
  | 2 => (Varint.read? maxTagOctets octets).bind fun (size, rest) =>
    (cut? size rest).map fun (front, rest) => (.record ⟨number, .delimited front⟩, rest)
  | 3 => some (.groupStart number, octets)
  | 4 => some (.groupEnd number, octets)
  | 5 => (cut? 4 octets).map fun (front, rest) => (.record ⟨number, .fixed32 front⟩, rest)
  | _ => none

/-- Octets that are a record, or the tag at the start or at the end of a group. -/
inductive IsToken : Octets → Token → Prop
  | record {number form : Nat} {tag octets : Octets} {payload : Payload}
    (htag : IsTag number form tag) (hpayload : IsPayload form octets payload) :
    IsToken (tag ++ octets) (.record ⟨number, payload⟩)
  | groupStart {number : Nat} {tag : Octets} (htag : IsTag number 3 tag) :
    IsToken tag (.groupStart number)
  | groupEnd {number : Nat} {tag : Octets} (htag : IsTag number 4 tag) :
    IsToken tag (.groupEnd number)

def Token.number : Token → Nat
  | record r => r.number
  | groupStart number | groupEnd number => number

section
variable {number form : Nat} {octets tag rest : Octets} {token : Token} {payload : Payload}

theorem Token.read?_eq (octets : Octets) :
    Token.read? octets = (Varint.read? maxTagOctets octets).bind fun (word, rest) =>
      if 1 <<< 32 ≤ word then none else Token.ofTag? (word / 8) (word % 8) rest := by
  unfold Token.read?
  congr 1
  funext ⟨word, rest⟩
  simp only [Option.bind_eq_bind]
  generalize word % 8 = form
  unfold Token.ofTag?
  split
  · rfl
  · split <;> simp only [Option.map_eq_bind, Function.comp_def, Option.pure_def]

/-- A tag is read, and then what it begins. -/
theorem Token.read?_of_isTag (htag : IsTag number form tag) (hform : form < 8)
    (hn : number < 1 <<< 29) (octets : Octets) :
    Token.read? (tag ++ octets) = Token.ofTag? number form octets := by
  have hdiv : (8 * number + form) / 8 = number := by omega
  have hmod : (8 * number + form) % 8 = form := by omega
  have hword : ¬1 <<< 32 ≤ 8 * number + form := by omega
  rw [Token.read?_eq, htag.1.read? maxTagOctets htag.2, Option.bind_some]
  simp only [if_neg hword, hdiv, hmod]

theorem IsPayload.form_lt (h : IsPayload form octets payload) : form < 8 := by
  cases h <;> decide

theorem Token.ofTag?_of_isPayload (h : IsPayload form octets payload) (rest : Octets) :
    Token.ofTag? number form (octets ++ rest) = some (.record ⟨number, payload⟩, rest) := by
  cases h with
  | varint hn hlength =>
    rw [ofTag?, hn.read? maxValueOctets hlength]
    rfl
  | fixed64 hlength =>
    rw [ofTag?, cut?_eq_some.2 ⟨rfl, hlength⟩]
    rfl
  | delimited hsize hlength =>
    rw [ofTag?, List.append_assoc, hsize.read? maxTagOctets hlength, Option.bind_some]
    simp only [cut?_eq_some.2 ⟨rfl, rfl⟩]
    rfl
  | fixed32 hlength =>
    rw [ofTag?, cut?_eq_some.2 ⟨rfl, hlength⟩]
    rfl

/-- What a tag begins is a payload, or the start or the end of a group. -/
theorem Token.ofTag?_eq_some (h : Token.ofTag? number form octets = some (token, rest))
    (htag : IsTag number form tag) :
    token.number = number ∧ ∃ front, octets = front ++ rest ∧ IsToken (tag ++ front) token := by
  unfold ofTag? at h
  split at h
  · obtain ⟨⟨value, rest'⟩, hr, he⟩ := Option.map_eq_some_iff.1 h
    cases he
    obtain ⟨front, rfl, hvalue, hlength⟩ := read?_eq_some.1 hr
    exact ⟨rfl, front, rfl, .record htag (.varint hvalue hlength)⟩
  · obtain ⟨⟨front, rest'⟩, hr, he⟩ := Option.map_eq_some_iff.1 h
    cases he
    obtain ⟨rfl, hlength⟩ := cut?_eq_some.1 hr
    exact ⟨rfl, front, rfl, .record htag (.fixed64 hlength)⟩
  · obtain ⟨⟨size, behind⟩, hs, h⟩ := Option.bind_eq_some_iff.1 h
    obtain ⟨⟨front, rest'⟩, hr, he⟩ := Option.map_eq_some_iff.1 h
    cases he
    obtain ⟨length, rfl, hsize, hlength⟩ := read?_eq_some.1 hs
    obtain ⟨rfl, rfl⟩ := cut?_eq_some.1 hr
    exact ⟨rfl, length ++ front, (List.append_assoc ..).symm,
      .record htag (.delimited hsize hlength)⟩
  · cases h
    exact ⟨rfl, [], rfl, (List.append_nil tag).symm ▸ .groupStart htag⟩
  · cases h
    exact ⟨rfl, [], rfl, (List.append_nil tag).symm ▸ .groupEnd htag⟩
  · obtain ⟨⟨front, rest'⟩, hr, he⟩ := Option.map_eq_some_iff.1 h
    cases he
    obtain ⟨rfl, hlength⟩ := cut?_eq_some.1 hr
    exact ⟨rfl, front, rfl, .record htag (.fixed32 hlength)⟩
  · cases h

/-- The reader takes a record or marker off the front, of a number for which the tag is below
2^32. -/
theorem Token.read?_eq_some :
    Token.read? octets = some (token, rest) ↔
      ∃ front, octets = front ++ rest ∧ IsToken front token ∧ token.number < 1 <<< 29 := by
  constructor
  · intro h
    rw [Token.read?_eq] at h
    obtain ⟨⟨word, behind⟩, hw, hrest⟩ := Option.bind_eq_some_iff.1 h
    obtain ⟨tag, rfl, hvarint, hlength⟩ := Wire.read?_eq_some.1 hw
    simp only at hrest
    split at hrest
    · cases hrest
    · next hword =>
      have htag : IsTag (word / 8) (word % 8) tag :=
        ⟨(Nat.div_add_mod word 8).symm ▸ hvarint, hlength⟩
      obtain ⟨hnumber, front, rfl, htoken⟩ := ofTag?_eq_some hrest htag
      exact ⟨tag ++ front, (List.append_assoc ..).symm, htoken, by omega⟩
  · rintro ⟨front, rfl, htoken, hn⟩
    cases htoken with
    | record htag hpayload =>
      rw [List.append_assoc, read?_of_isTag htag hpayload.form_lt hn, ofTag?_of_isPayload hpayload]
    | groupStart htag => exact read?_of_isTag htag (by decide) hn rest
    | groupEnd htag => exact read?_of_isTag htag (by decide) hn rest

end

/-- A record or marker is taken off the front of octets by itself: there is at least one octet of
it, and it is the same whatever comes behind. -/
theorem Token.read?_iff_front {octets rest : Octets} {token : Token} :
    Token.read? octets = some (token, rest) ↔
      ∃ front, front ≠ [] ∧ octets = front ++ rest ∧
        ∀ more, Token.read? (front ++ more) = some (token, more) := by
  constructor
  · intro h
    obtain ⟨front, rfl, htoken, hn⟩ := Token.read?_eq_some.1 h
    refine ⟨front, ?_, rfl, fun more => Token.read?_eq_some.2 ⟨front, rfl, htoken, hn⟩⟩
    rintro rfl
    exact absurd (Token.size_of_read h) (by simp)
  · rintro ⟨front, -, rfl, hfront⟩
    exact hfront rest

/-! ## Groups -/

section
variable {limit depth number : Nat} {nested : Bool} {pending : List Nat}
  {octets rest : Octets} {records : List Record} {token : Token}

/-- One turn of the reader. -/
theorem scan_of_read (h : Token.read? octets = some (token, rest)) :
    scan limit pending octets =
      match token with
      | .record r =>
        if pending = [] ∧ r.number = 0 then none
        else (scan limit pending rest).map fun rs => if pending = [] then r :: rs else rs
      | .groupStart number =>
        if limit ≤ pending.length ∨ (pending = [] ∧ number = 0) then none
        else (scan limit (number :: pending) rest).map fun rs =>
          if pending = [] then ⟨number, .group⟩ :: rs else rs
      | .groupEnd number =>
        match pending with
        | [] => none
        | innermost :: outer => if innermost = number then scan limit outer rest else none := by
  cases octets with
  | nil => simp [Token.read?, Varint.read?, maxTagOctets] at h
  | cons octet tail =>
    rw [scan]
    split <;> rename_i heq <;> rw [h] at heq <;> cases heq <;> rfl

/-- What may follow while groups are open, the innermost one first: the rest of each group up to its
end, and then the rest of the message. Only the records of the latter are given. -/
inductive Closes (rules : Rules) (limit : Nat) : List Nat → Octets → List Record → Prop
  | message {octets : Octets} {records : List Record}
    (h : IsMessage rules false limit octets records) : Closes rules limit [] octets records
  | group {number depth : Nat} {outer : List Nat} {body finish rest : Octets}
    {inner records : List Record} (hdepth : depth + (outer.length + 1) = limit)
    (hbody : IsMessage rules true depth body inner) (hfinish : IsTag number 4 finish)
    (hrest : Closes rules limit outer rest records) :
    Closes rules limit (number :: outer) (body ++ (finish ++ rest)) records

theorem admits_wire : Rules.wire.Admits (!pending.isEmpty) number ↔
    number < 1 <<< 29 ∧ ¬(pending = [] ∧ number = 0) := by
  cases pending <;> simp [Rules.Admits, Rules.wire, IsNumber, Nat.pos_iff_ne_zero, and_comm]

/-- A record comes before what may follow it, whatever groups are open. -/
theorem Closes.record {r : Record} (h : Closes .wire limit pending octets records)
    (htoken : IsToken rest (.record r)) (hadmits : Rules.wire.Admits (!pending.isEmpty) r.number) :
    Closes .wire limit pending (rest ++ octets)
      (if pending = [] then r :: records else records) := by
  cases htoken with
  | record htag hpayload =>
    rw [List.append_assoc]
    cases h with
    | message hmessage => exact .message (.record htag hadmits hpayload hmessage)
    | group hdepth hbody hfinish hrest =>
      have := Closes.group hdepth (.record htag hadmits hpayload hbody) hfinish hrest
      simpa using this

/-- A group that is closed comes before what may follow it as well. -/
theorem Closes.start {start : Octets} (h : Closes .wire limit (number :: pending) octets records)
    (hstart : IsTag number 3 start) (hadmits : Rules.wire.Admits (!pending.isEmpty) number) :
    Closes .wire limit pending (start ++ octets)
      (if pending = [] then ⟨number, .group⟩ :: records else records) := by
  cases h with
  | @group _ depth _ _ _ _ _ _ hdepth hbody hfinish hrest =>
    cases hrest with
    | message hmessage =>
      obtain rfl : depth + 1 = limit := hdepth
      exact .message (.group hstart hadmits hbody hfinish hmessage)
    | @group _ outerDepth _ _ _ _ _ _ hdepth' hbody' hfinish' hrest' =>
      rw [List.length_cons] at hdepth
      obtain rfl : outerDepth = depth + 1 := by omega
      have := Closes.group hdepth' (.group hstart hadmits hbody hfinish hbody') hfinish' hrest'
      simpa using this

/-- What the reader reads may follow the groups that are open. -/
theorem closes_of_scan (h : scan limit pending octets = some records)
    (hpending : pending.length ≤ limit) : Closes .wire limit pending octets records := by
  fun_induction scan limit pending octets generalizing records with
  | case1 => cases h; exact .message .nil
  | case2 => cases h
  | case3 => cases h
  | case4 => cases h
  | case5 pending octet tail r rest hr hadmits ih =>
    obtain ⟨rs, hrs, rfl⟩ := Option.map_eq_some_iff.1 h
    obtain ⟨front, he, htoken, hn⟩ := Token.read?_eq_some.1 hr
    rw [he]
    exact (ih hrs hpending).record htoken (admits_wire.2 ⟨hn, hadmits⟩)
  | case6 => cases h
  | case7 pending octet tail number rest hr hadmits ih =>
    obtain ⟨rs, hrs, rfl⟩ := Option.map_eq_some_iff.1 h
    obtain ⟨front, he, htoken, hn⟩ := Token.read?_eq_some.1 hr
    rw [not_or, Nat.not_le] at hadmits
    rw [he]
    cases htoken with
    | groupStart htag => exact (ih hrs hadmits.1).start htag (admits_wire.2 ⟨hn, hadmits.2⟩)
  | case8 => cases h
  | case9 octet tail rest innermost outer hr ih =>
    obtain ⟨front, he, htoken, -⟩ := Token.read?_eq_some.1 hr
    rw [he]
    rw [List.length_cons] at hpending
    cases htoken with
    | groupEnd htag =>
      exact .group (Nat.sub_add_cancel hpending) .nil htag (ih h (Nat.le_of_succ_le hpending))
  | case10 => cases h

/-- The reader goes through a message and on to what follows it. The induction is on the message;
inside a group it is used with one more group open. -/
theorem scan_of_isMessage (h : IsMessage .wire nested depth octets records) (pending : List Nat)
    (hnested : nested = !pending.isEmpty) (hdepth : pending.length + depth ≤ limit)
    (rest : Octets) :
    scan limit pending (octets ++ rest) =
      (scan limit pending rest).map fun rs => if pending = [] then records ++ rs else rs := by
  induction h generalizing pending rest with
  | nil => simp
  | @record nested depth number form tag octets behind payload records htag hadmits hpayload _ ih =>
    obtain ⟨hn, hzero⟩ := admits_wire.1 (hnested ▸ hadmits)
    have hread : Token.read? (tag ++ (octets ++ (behind ++ rest))) =
        some (.record ⟨number, payload⟩, behind ++ rest) :=
      Token.read?_eq_some.2 ⟨tag ++ octets, (List.append_assoc ..).symm, .record htag hpayload, hn⟩
    simp only [List.append_assoc]
    rw [scan_of_read hread]
    simp only [if_neg hzero]
    rw [ih pending hnested hdepth, Option.map_map]
    congr 1
    funext rs
    by_cases hpending : pending = [] <;> simp [hpending]
  | @group nested depth number start body finish behind inner records hstart hadmits _ hfinish _
      ihbody ihrest =>
    obtain ⟨hn, hzero⟩ := admits_wire.1 (hnested ▸ hadmits)
    have hread : Token.read? (start ++ (body ++ (finish ++ (behind ++ rest)))) =
        some (.groupStart number, body ++ (finish ++ (behind ++ rest))) :=
      Token.read?_eq_some.2 ⟨start, rfl, .groupStart hstart, hn⟩
    have hend : Token.read? (finish ++ (behind ++ rest)) =
        some (.groupEnd number, behind ++ rest) :=
      Token.read?_eq_some.2 ⟨finish, rfl, .groupEnd hfinish, hn⟩
    have hopen : ¬(limit ≤ pending.length ∨ (pending = [] ∧ number = 0)) :=
      not_or.2 ⟨by omega, hzero⟩
    simp only [List.append_assoc]
    rw [scan_of_read hread]
    simp only [if_neg hopen]
    rw [ihbody (number :: pending) rfl (by rw [List.length_cons]; omega), scan_of_read hend]
    simp only [if_pos, reduceCtorEq, if_false, Option.map_id']
    rw [ihrest pending hnested hdepth, Option.map_map]
    congr 1
    funext rs
    by_cases hpending : pending = [] <;> simp [hpending]

/-- Messages are read exactly if they follow the grammar. -/
theorem records?_eq_some :
    records? limit octets = some records ↔ IsMessage .wire false limit octets records := by
  constructor
  · intro h
    cases closes_of_scan h (Nat.zero_le limit) with
    | message hmessage => exact hmessage
  · intro h
    have hscan := scan_of_isMessage h [] rfl (Nat.le_of_eq (Nat.zero_add limit)) []
    rw [List.append_nil] at hscan
    rw [records?, hscan]
    simp [scan]

end

/-- A message begins with a tag of a number that is admitted, if with anything. -/
theorem IsMessage.exists_tag {rules : Rules} {nested : Bool} {depth : Nat} {octets : Octets}
    {records : List Record} (h : IsMessage rules nested depth octets records) (hne : octets ≠ []) :
    ∃ tag rest number form, octets = tag ++ rest ∧ IsTag number form tag ∧ form < 8 ∧
      rules.Admits nested number := by
  cases h with
  | nil => exact absurd rfl hne
  | record htag hadmits hpayload => exact ⟨_, _, _, _, rfl, htag, hpayload.form_lt, hadmits⟩
  | group hstart hadmits => exact ⟨_, _, _, _, rfl, hstart, by decide, hadmits⟩

end ToolBindings.Wire
