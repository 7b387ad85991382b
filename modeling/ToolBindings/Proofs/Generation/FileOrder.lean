import ToolBindings.Proofs.Descriptor.TypeIndex
import ToolBindings.Proofs.Generation.Paths
import ToolBindings.Proofs.Generation.Visibility

/-!
# The order of files

Which message a name stands for, and which file, can depend on the order of the files only where
names are used twice. Otherwise the files of a request can be given in any order.

* `TypeIndex.exists_find?_iff`, `TypeIndex.find?_eq_some_iff`: the names that messages are found by,
  and which message is found.
* `TypeIndex.find?_perm`, `File.find?_perm`: the order of the files does not decide what is found.
* `generate_perm`: nor does it decide how a request is answered.
* `lookups_exact`: all of this.
-/
namespace ToolBindings

section
variable {files files' : List File} {place place' : List Nat} {name : String}
  {message message' : Message}

/-! ## Names that resolve -/

theorem TypeIndex.exists_find?_iff :
    (∃ message, (TypeIndex.ofFiles files).find? name = some message) ↔
      ∃ place message, Declares files place name message := by
  have hlast := isLast_ofFiles files name
  cases hfind : (TypeIndex.ofFiles files).find? name with
  | none =>
    rw [hfind] at hlast
    exact ⟨nofun, fun ⟨place, message, h⟩ => absurd h (hlast place message)⟩
  | some message =>
    rw [hfind] at hlast
    obtain ⟨place, h, -⟩ := hlast
    exact ⟨fun _ => ⟨place, message, h⟩, fun _ => ⟨message, rfl⟩⟩

/-- One message stands at a place. -/
theorem Declares.message_eq (h : Declares files place name message)
    (h' : Declares files place name message') : message = message' := by
  obtain ⟨number, file, inner, rfl, hfile, way, hway, hlast, -⟩ := h
  obtain ⟨_, _, _, ⟨⟩, hfile', way', hway', hlast', -⟩ := h'
  rw [hfile, Option.some.injEq] at hfile'
  subst hfile'
  rw [hway, Option.some.injEq] at hway'
  subst hway'
  rw [hlast, Option.some.injEq] at hlast'
  exact hlast'

theorem TypeIndex.find?_eq_some_iff :
    (TypeIndex.ofFiles files).find? name = some message ↔
      ∃ place, Declares files place name message ∧
        ∀ place' message', Declares files place' name message' → place' ≤ place := by
  have hlast := isLast_ofFiles files name
  constructor
  · intro hfind
    rw [hfind] at hlast
    exact hlast
  · intro h
    obtain ⟨place, h, hle⟩ := h
    obtain ⟨found, hfind⟩ := TypeIndex.exists_find?_iff.2 ⟨place, message, h⟩
    rw [hfind] at hlast
    obtain ⟨place', h', hle'⟩ := hlast
    obtain rfl := le_antisymm (hle place' found h') (hle' place message h)
    rw [hfind, h'.message_eq h]

/-! ## Files in another order -/

theorem declares_perm (hperm : files'.Perm files) (h : Declares files' place name message) :
    ∃ place, Declares files place name message := by
  obtain ⟨number, file, inner, rfl, hfile, hat⟩ := h
  obtain ⟨number', hfile'⟩ := List.getElem?_of_mem (hperm.subset (List.mem_of_getElem? hfile))
  exact ⟨number' :: inner, number', file, inner, rfl, hfile', hat⟩

/-- Where no full name stands at two places, the order of the files does not decide what a name
resolves to. -/
theorem TypeIndex.find?_perm (hdistinct : HasDistinctNames files) (hperm : files'.Perm files)
    (name : String) :
    (TypeIndex.ofFiles files').find? name = (TypeIndex.ofFiles files).find? name := by
  have hsome : ∀ message, (TypeIndex.ofFiles files').find? name = some message →
      (TypeIndex.ofFiles files).find? name = some message := by
    intro message hfind
    obtain ⟨place', h', -⟩ := TypeIndex.find?_eq_some_iff.1 hfind
    obtain ⟨place, h⟩ := declares_perm hperm h'
    exact TypeIndex.find?_eq_some_iff.2 ⟨place, h, fun other message' hother =>
      (hdistinct other place name message' message hother h).le⟩
  cases hfind : (TypeIndex.ofFiles files').find? name with
  | some message => exact (hsome message hfind).symm
  | none =>
    symm
    by_contra hne
    obtain ⟨message, hmessage⟩ := Option.ne_none_iff_exists'.1 hne
    obtain ⟨place, other, h⟩ := TypeIndex.exists_find?_iff.1 ⟨message, hmessage⟩
    obtain ⟨place', h'⟩ := declares_perm hperm.symm h
    obtain ⟨found, hfound⟩ := TypeIndex.exists_find?_iff.2 ⟨place', other, h'⟩
    rw [hfind] at hfound
    cases hfound

/-- Where no two files have the same name, a file is found by its name. -/
theorem File.find?_eq_some_iff (hdistinct : (files.map (·.name)).Nodup) {file : File} :
    File.find? files name = some file ↔ file ∈ files ∧ file.name = name := by
  have hfound : ∀ found, File.find? files name = some found → found ∈ files :=
    fun found h => List.mem_reverse.1 (List.mem_of_find?_eq_some h)
  constructor
  · intro h
    exact ⟨hfound file h, name_of_find h⟩
  · intro h
    obtain ⟨hm, rfl⟩ := h
    have hsome : (File.find? files file.name).isSome :=
      List.find?_isSome.2 ⟨file, List.mem_reverse.2 hm, beq_self_eq_true _⟩
    obtain ⟨found, h⟩ := Option.isSome_iff_exists.1 hsome
    rw [h, List.inj_on_of_nodup_map hdistinct (hfound found h) hm (name_of_find h)]

theorem File.find?_perm (hdistinct : (files.map (·.name)).Nodup) (hperm : files'.Perm files)
    (name : String) : File.find? files' name = File.find? files name := by
  have hdistinct' : (files'.map (·.name)).Nodup := (hperm.map _).nodup_iff.2 hdistinct
  ext file
  rw [File.find?_eq_some_iff hdistinct, File.find?_eq_some_iff hdistinct', hperm.mem_iff]

end

/-- The answer to a request does not depend on the order of its files, unless names are used
twice. -/
theorem generate_perm {request : Request} (htypes : HasDistinctNames request.files)
    (hfiles : (request.files.map (·.name)).Nodup) {files : List File}
    (hperm : files.Perm request.files) (settings? : Option Settings) :
    (generate { request with files } settings?).result = (generate request settings?).result := by
  have hgenerated : (Request.generatedFiles { request with files } settings?).result =
      (request.generatedFiles settings?).result := by
    refine @generatedFiles_of_view { request with files } request rfl rfl
      (fun name _ => ?_) (fun type _ => ?_) settings?
    · exact congrArg (Option.map File.view) (File.find?_perm hfiles hperm name)
    · exact congrArg (Option.map Message.view) (TypeIndex.find?_perm htypes hperm type)
  rw [result_generate, result_generate, hgenerated]

/-- A name resolves exactly if some message has it as its full name, and then to the last such
message. If no two messages have the same full name and no two files the same name, the order of the
files decides neither what is found nor how a request is answered. -/
theorem lookups_exact (files : List File) :
    (∀ name, (∃ message, (TypeIndex.ofFiles files).resolve name = .ok message) ↔
      ∃ place message, Declares files place name message) ∧
    (∀ name message, (TypeIndex.ofFiles files).resolve name = .ok message ↔
      ∃ place, Declares files place name message ∧
        ∀ place' message', Declares files place' name message' → place' ≤ place) ∧
    (HasDistinctNames files → (files.map (·.name)).Nodup → ∀ files', files'.Perm files →
      (∀ name, (TypeIndex.ofFiles files').resolve name = (TypeIndex.ofFiles files).resolve name) ∧
      (∀ name, File.find? files' name = File.find? files name) ∧
      ∀ (request : Request) (settings? : Option Settings), request.files = files →
        (generate { request with files := files' } settings?).result =
          (generate request settings?).result) := by
  simp only [resolve_eq_ok]
  refine ⟨fun _ => TypeIndex.exists_find?_iff, fun _ _ => TypeIndex.find?_eq_some_iff, ?_⟩
  intro htypes hfiles files' hperm
  refine ⟨fun name => ?_, File.find?_perm hfiles hperm, ?_⟩
  · unfold TypeIndex.resolve
    rw [TypeIndex.find?_perm htypes hperm]
  · intro request settings? heq
    subst heq
    exact generate_perm htypes hfiles hperm settings?

/-- A tool whose input holds a message of another file, which stands inside a message there. -/
def townFiles : List File := [
  { name := "people.proto"
    package := "town"
    messages := [{ name := "Person", nested := [
      { name := "Address", fields := [{ name := "street", type := .string }] }] }] },
  { name := "hall.proto"
    package := "town.hall"
    messages := [{ name := "Visit", fields := [
      { name := "from", type := .message, typeName := ".town.Person.Address" }] }]
    services := [{ name := "Hall", methods := [
      { name := "Register", input := ".town.hall.Visit"
        options := ToolMetadata.toOptions { description := "Registers a visit." } }] }] }]

def townRequest : Request := { toGenerate := ["hall.proto"], files := townFiles }

theorem lookups_exact_town :
    HasDistinctNames townFiles ∧ (townFiles.map (·.name)).Nodup ∧
      townFiles.reverse.Perm townFiles ∧
      (generate { townRequest with files := townFiles.reverse } none).result =
        (generate townRequest none).result ∧
      ((generate townRequest none).result.toOption.map (·.files.length)) = some 1 := by
  have htypes : HasDistinctNames townFiles := hasDistinctNames_of_nodup (by decide +kernel)
  have hfiles : (townFiles.map (·.name)).Nodup := by decide +kernel
  have hperm : townFiles.reverse.Perm townFiles := List.reverse_perm _
  obtain ⟨-, -, hgenerate⟩ := (lookups_exact townFiles).2.2 htypes hfiles townFiles.reverse hperm
  exact ⟨htypes, hfiles, hperm, hgenerate townRequest none rfl, by decide +kernel⟩

end ToolBindings
