import ToolBindings.Proofs.Tool.Conflicts
import ToolBindings.Proofs.Tool.Selection

/-!
# What a walk leaves behind

The walk through the methods of a file passes some of them and ends at the first that cannot
be passed. It has then claimed the tool names of those before, whatever it ended for.

* `Passes`: a method is in order, and its names are not in use.
* `Collides`: the conflict between a method and the names in use.
* `Reaches`: some methods are passed one after the other, and the next one is not.
* `toolsAmong_cons_cases`: one method.
* `toolsAmong_residue`: how far the walk comes and what it leaves.
* `nodup_toolsAmong`: no name is claimed twice.
-/
namespace ToolBindings

/-! ## Names of methods -/

/-- The tool metadata in the options of a method, if the options can be read and there is any. -/
def annotation? (declared : String × Method) : Option ToolMetadata :=
  declared.2.metadata.toOption.join

theorem annotation?_of_metadata {declared : String × Method} {metadata? : Option ToolMetadata}
    (h : declared.2.metadata = .ok metadata?) : annotation? declared = metadata? := by
  rw [annotation?, h]
  rfl

namespace File

def claimOf? (file : File) (declared : String × Method) : Option (String × String) :=
  (annotation? declared).map fun metadata =>
    (Tool.chooseName metadata declared.1 declared.2.name,
      file.ownerLabel declared.1 declared.2.name)

def constantOf? (file : File) (declared : String × Method) : Option (String × String) :=
  (annotation? declared).map fun _ =>
    (Naming.constantName declared.1 declared.2.name, file.ownerLabel declared.1 declared.2.name)

/-- The claims of the tools among some methods, in their order. -/
def claimsOf (file : File) (methods : List (String × Method)) : Claims :=
  methods.filterMap file.claimOf?

/-- The constants of the tools among some methods, the latest first. -/
def constantsOf (file : File) (methods : List (String × Method)) : Tool.Constants :=
  (methods.filterMap file.constantOf?).reverse

variable (file : File)

theorem claimsOf_singleton (declared : String × Method) :
    file.claimsOf [declared] = (file.claimOf? declared).toList := by
  unfold claimsOf
  cases h : file.claimOf? declared with
  | none => rw [List.filterMap_cons_none h]; rfl
  | some entry => rw [List.filterMap_cons_some h]; rfl

theorem constantsOf_singleton (declared : String × Method) :
    file.constantsOf [declared] = (file.constantOf? declared).toList := by
  unfold constantsOf
  cases h : file.constantOf? declared with
  | none => rw [List.filterMap_cons_none h]; rfl
  | some entry => rw [List.filterMap_cons_some h]; rfl

/-- The claims of a method come before those of the methods behind it. -/
theorem append_claimsOf (claims : Claims) (declared : String × Method)
    (methods : List (String × Method)) :
    claims ++ file.claimsOf [declared] ++ file.claimsOf methods =
      claims ++ file.claimsOf (declared :: methods) := by
  have hsplit : file.claimsOf (declared :: methods) =
      file.claimsOf [declared] ++ file.claimsOf methods :=
    List.filterMap_append (l := [declared])
  rw [hsplit, List.append_assoc]

theorem constantsOf_append (constants : Tool.Constants) (declared : String × Method)
    (methods : List (String × Method)) :
    file.constantsOf methods ++ (file.constantsOf [declared] ++ constants) =
      file.constantsOf (declared :: methods) ++ constants := by
  have hsplit : (declared :: methods).filterMap file.constantOf? =
      [declared].filterMap file.constantOf? ++ methods.filterMap file.constantOf? :=
    List.filterMap_append (l := [declared])
  rw [constantsOf, constantsOf, constantsOf, hsplit, List.reverse_append, List.append_assoc]

end File

section
variable {file : File} {index : TypeIndex} {settings : Settings} {claims : Claims}
  {constants : Tool.Constants} {declared : String × Method} {methods : List (String × Method)}

/-- The names of a method are those of the tool that it is by itself. -/
theorem names_eq_of_ofDeclaration {found : Option Tool}
    (h : Tool.ofDeclaration file index settings declared = .ok found) :
    file.claimOf? declared =
        found.map (fun tool => (tool.name, file.ownerLabel declared.1 declared.2.name)) ∧
      file.constantOf? declared =
        found.map
          (fun tool => (tool.constantName, file.ownerLabel declared.1 declared.2.name)) := by
  unfold File.claimOf? File.constantOf?
  cases found with
  | none =>
    rw [annotation?_of_metadata (Tool.ofDeclaration_eq_none.1 h)]
    exact ⟨rfl, rfl⟩
  | some tool =>
    obtain ⟨metadata, hm, ho⟩ := Tool.ofDeclaration_eq_some.1 h
    obtain ⟨-, input, fields, -, -, rfl⟩ := Tool.ofMethod_eq_ok.1 ho
    rw [annotation?_of_metadata hm]
    exact ⟨rfl, rfl⟩

/-! ## One method -/

/-- A method is in order by itself, and its names are not in use. -/
structure Passes (file : File) (index : TypeIndex) (settings : Settings) (claims : Claims)
    (constants : Tool.Constants) (declared : String × Method) : Prop where
  inOrder : ∃ found, Tool.ofDeclaration file index settings declared = .ok found
  constant_free : ∀ entry ∈ file.constantOf? declared, constants.lookup entry.1 = none
  claim_free : ∀ entry ∈ file.claimOf? declared, claims.lookup entry.1 = none

/-- The conflict between a method and names in use. Its holder is the one of the name that is in
use, and its claimant is the method. -/
inductive Collides (file : File) (claims : Claims) (constants : Tool.Constants)
    (declared : String × Method) : NameConflict → Prop where
  | toolName {name holder claimant : String}
    (hname : file.claimOf? declared = some (name, claimant))
    (hholder : claims.lookup name = some holder) :
    Collides file claims constants declared { kind := .toolName, name, holder, claimant }
  | identifier {name holder claimant : String}
    (hname : file.constantOf? declared = some (name, claimant))
    (hholder : constants.lookup name = some holder) :
    Collides file claims constants declared { kind := .identifier, name, holder, claimant }

/-- A walk that ends at a method with a conflict ends there for the names of the method. -/
theorem collides_of_toolsAmong {conflict : NameConflict}
    (hn : Tool.ofDeclaration file index settings declared ≠ .ok none)
    (hfree : ∀ tool, Tool.ofDeclaration file index settings declared = .ok (some tool) →
      constants.lookup tool.constantName = none → claims.lookup tool.name ≠ none)
    (hw : (toolsAmong file index settings claims constants (declared :: methods)).2.result =
      .error (.rejected (.conflict conflict))) :
    Collides file claims constants declared conflict := by
  obtain ⟨service, method⟩ := declared
  rw [Ne, Tool.ofDeclaration_eq_none] at hn
  cases hm : method.metadata with
  | error failure =>
    simp only [toolsAmong, hm, Logged.result_fail, Except.error.injEq] at hw
    rw [hw] at hm
    exact absurd hm (methodMetadata_ne_rejected method (.conflict conflict))
  | ok metadata? =>
    cases metadata? with
    | none => exact absurd hm hn
    | some metadata =>
      have hannotation : annotation? (service, method) = some metadata :=
        annotation?_of_metadata hm
      cases ho : Tool.ofMethod file index settings constants service method metadata with
      | error failure =>
        simp only [toolsAmong, hm, ho, Logged.result_fail, Except.error.injEq] at hw
        rw [hw] at ho
        obtain ⟨holder, hl, rfl⟩ := Tool.conflict_of_ofMethod ho
        exact .identifier (by rw [File.constantOf?, hannotation]; rfl) hl
      | ok tool =>
        obtain ⟨halone, hconstant⟩ := Tool.ofMethod_constants.1 ho
        have hdeclared : Tool.ofDeclaration file index settings (service, method) =
            .ok (some tool) := Tool.ofDeclaration_eq_some.2 ⟨metadata, hm, halone⟩
        obtain ⟨holder, hl⟩ := Option.ne_none_iff_exists'.1 (hfree tool hdeclared hconstant)
        simp only [toolsAmong, hm, ho, Claims.claim, hl] at hw
        cases hw
        exact .toolName (names_eq_of_ofDeclaration hdeclared).1 hl

/-- A walk goes on behind a method that passes, with the names of the method in use, and ends
before one that does not pass. -/
theorem toolsAmong_cons_cases (file : File) (index : TypeIndex) (settings : Settings)
    (claims : Claims) (constants : Tool.Constants) (declared : String × Method)
    (methods : List (String × Method)) :
    let walk := toolsAmong file index settings claims constants (declared :: methods)
    let next := toolsAmong file index settings (claims ++ file.claimsOf [declared])
      (file.constantsOf [declared] ++ constants) methods
    (Passes file index settings claims constants declared ∧ walk.1 = next.1 ∧
      ∀ failure, walk.2.result = .error failure ↔ next.2.result = .error failure) ∨
    (¬Passes file index settings claims constants declared ∧ walk.1 = claims ∧
      ∃ failure, walk.2.result = .error failure ∧
        ∀ conflict, failure = .rejected (.conflict conflict) →
          Collides file claims constants declared conflict) := by
  intro walk next
  rcases toolsAmong_step file index settings claims constants declared methods with
    ⟨hd, later, rfl, hw⟩ | ⟨tool, hd, hc, hl, later, rfl, hw⟩ | ⟨hn, hfree, failure, hw⟩
  · obtain ⟨hclaim, hconstant⟩ := names_eq_of_ofDeclaration hd
    rw [Option.map_none] at hclaim hconstant
    have hnext : next = toolsAmong file index settings claims constants methods := by
      simp only [next, File.claimsOf_singleton, File.constantsOf_singleton, hclaim, hconstant,
        Option.toList_none, List.append_nil, List.nil_append]
    refine .inl ⟨⟨⟨none, hd⟩, ?_, ?_⟩, ?_, fun failure => ?_⟩
    · rw [hconstant]; nofun
    · rw [hclaim]; nofun
    · simp only [walk, hw, hnext]
    · rw [hnext]
      simp only [walk, hw, Logged.result_bind, Logged.result_report, ok_bind]
  · obtain ⟨hclaim, hconstant⟩ := names_eq_of_ofDeclaration hd
    rw [Option.map_some] at hclaim hconstant
    have hnext : next = toolsAmong file index settings
        (claims ++ [(tool.name, file.ownerLabel declared.1 declared.2.name)])
        ((tool.constantName, file.ownerLabel declared.1 declared.2.name) :: constants) methods := by
      simp only [next, File.claimsOf_singleton, File.constantsOf_singleton, hclaim, hconstant,
        Option.toList_some, List.singleton_append]
    refine .inl ⟨⟨⟨some tool, hd⟩, ?_, ?_⟩, ?_, fun failure => ?_⟩
    · rw [hconstant]
      rintro _ ⟨⟩
      exact hc
    · rw [hclaim]
      rintro _ ⟨⟩
      exact hl
    · simp only [walk, hw, hnext]
    · rw [hnext]
      simp only [walk, hw, Logged.result_bind, bind_eq_error, Logged.result_pure, reduceCtorEq,
        and_false, exists_false, or_false]
  · refine .inr ⟨?_, congrArg Prod.fst hw, failure, by simp only [walk, hw, Logged.result_fail], ?_⟩
    · rintro ⟨⟨found, hd⟩, hc, hl⟩
      obtain ⟨hclaim, hconstant⟩ := names_eq_of_ofDeclaration hd
      cases found with
      | none => exact hn hd
      | some tool => exact hfree tool hd (hc _ hconstant) (hl _ hclaim)
    · rintro conflict rfl
      exact collides_of_toolsAmong hn hfree (by rw [hw, Logged.result_fail])

/-! ## All methods -/

/-- The methods `before` pass, each with the names of those before it in use, and the first of
the methods `rest` does not. -/
structure Reaches (file : File) (index : TypeIndex) (settings : Settings) (claims : Claims)
    (constants : Tool.Constants) (before rest : List (String × Method)) : Prop where
  passes : ∀ earlier declared later, before = earlier ++ declared :: later →
    Passes file index settings (claims ++ file.claimsOf earlier)
      (file.constantsOf earlier ++ constants) declared
  stops : ∀ declared ∈ rest.head?, ¬Passes file index settings (claims ++ file.claimsOf before)
    (file.constantsOf before ++ constants) declared

/-- Methods are passed one at a time. -/
theorem Reaches.cons {before rest : List (String × Method)}
    (hfirst : Passes file index settings claims constants declared)
    (h : Reaches file index settings (claims ++ file.claimsOf [declared])
      (file.constantsOf [declared] ++ constants) before rest) :
    Reaches file index settings claims constants (declared :: before) rest where
  passes := by
    intro earlier method later he
    cases earlier with
    | nil =>
      rw [List.nil_append, List.cons.injEq] at he
      obtain ⟨rfl, -⟩ := he
      simpa [File.claimsOf, File.constantsOf] using hfirst
    | cons first earlier =>
      rw [List.cons_append, List.cons.injEq] at he
      obtain ⟨rfl, he⟩ := he
      have := h.passes earlier method later he
      rwa [File.append_claimsOf, File.constantsOf_append] at this
  stops := by
    intro method hm
    have := h.stops method hm
    rwa [File.append_claimsOf, File.constantsOf_append] at this

/-- A walk comes to the first method that does not pass. It has claimed the names of the tools
before it and nothing else; and if it ends in a conflict, that is about this method. The induction
is on the methods; the names in use grow with every tool. -/
theorem toolsAmong_residue (file : File) (index : TypeIndex) (settings : Settings)
    (claims : Claims) (constants : Tool.Constants) (methods : List (String × Method)) :
    let walk := toolsAmong file index settings claims constants methods
    ∃ before rest, methods = before ++ rest ∧
      Reaches file index settings claims constants before rest ∧
      walk.1 = claims ++ file.claimsOf before ∧
      (rest ≠ [] ↔ ∃ failure, walk.2.result = .error failure) ∧
      ∀ conflict, walk.2.result = .error (.rejected (.conflict conflict)) →
        ∃ declared ∈ rest.head?, Collides file (claims ++ file.claimsOf before)
          (file.constantsOf before ++ constants) declared conflict := by
  induction methods generalizing claims constants with
  | nil =>
    refine ⟨[], [], rfl, ⟨?_, nofun⟩, ?_, ?_, nofun⟩
    · intro earlier declared later he
      exact absurd he.symm (by simp)
    · exact (List.append_nil claims).symm
    · exact ⟨nofun, nofun⟩
  | cons declared rest ih =>
    rcases toolsAmong_cons_cases file index settings claims constants declared rest with
      ⟨hpasses, hclaims, hfails⟩ | ⟨hstops, hclaims, failure, hfails, hconflict⟩
    · obtain ⟨before, after, rfl, hreaches, hlater, hafter, hconflict⟩ :=
        ih (claims ++ file.claimsOf [declared]) (file.constantsOf [declared] ++ constants)
      refine ⟨declared :: before, after, rfl, hreaches.cons hpasses, ?_, ?_, ?_⟩
      · rw [hclaims, hlater, File.append_claimsOf]
      · simp only [hfails, hafter]
      · intro conflict hc
        have := hconflict conflict ((hfails _).1 hc)
        rwa [File.append_claimsOf, File.constantsOf_append] at this
    · have hstart : claims ++ file.claimsOf [] = claims := List.append_nil claims
      refine ⟨[], declared :: rest, rfl, ⟨?_, ?_⟩, ?_, ?_, ?_⟩
      · intro earlier method later he
        exact absurd he.symm (by simp)
      · rintro _ ⟨⟩
        rw [hstart]
        exact hstops
      · rw [hclaims, hstart]
      · exact ⟨fun _ => ⟨failure, hfails⟩, fun _ => List.cons_ne_nil _ _⟩
      · intro conflict hc
        rw [hfails, Except.error.injEq] at hc
        rw [hstart]
        exact ⟨declared, rfl, hconflict conflict hc⟩

/-! ## Claims -/

theorem nodup_keys_claim {name claimant : String} (h : (claims.map (·.1)).Nodup)
    (hfree : claims.lookup name = none) : ((claims ++ [(name, claimant)]).map (·.1)).Nodup := by
  rw [Entries.lookup_eq_none] at hfree
  rw [List.map_append, List.map_singleton, List.nodup_append]
  refine ⟨h, List.nodup_singleton _, ?_⟩
  rintro key hk _ hname rfl
  obtain rfl := List.mem_singleton.1 hname
  exact hfree hk

/-- No name is claimed twice. -/
theorem nodup_toolsAmong (h : (claims.map (·.1)).Nodup) :
    ((toolsAmong file index settings claims constants methods).1.map (·.1)).Nodup := by
  induction methods generalizing claims constants with
  | nil => exact h
  | cons declared rest ih =>
    rcases toolsAmong_step file index settings claims constants declared rest with
      ⟨-, later, rfl, hw⟩ | ⟨tool, -, -, hfree, later, rfl, hw⟩ | ⟨-, -, failure, hw⟩
    · rw [hw]; exact ih h
    · rw [hw]; exact ih (nodup_keys_claim h hfree)
    · rw [hw]; exact h

end

end ToolBindings
