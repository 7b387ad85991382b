import ToolBindings.CommandLine
import ToolBindings.Proofs.Descriptor.RoundTrip
import ToolBindings.Proofs.Generation.Outcome

/-!
# The generator between octets

A run reads a request from octets and writes the answer as octets. In between it is the
generation, and nothing of either is lost or added on the way.

* `Answers`: octets stand for the outcome of a generation.
* `answer_eq_of_thresholds`: the log threshold does not matter for the answer.
* `run_serialized`: a run on octets that stand for a request answers with what is generated for
  that request.
-/
namespace ToolBindings
open Wire

/-- What goes out stands for the outcome of a generation: octets from which the answer is read,
and no octets if metadata in the request cannot be used. -/
def Answers (result : Except Failure Response) : Except Abort Octets → Prop
  | .ok octets => ∃ response, result = .ok response ∧ Response.ofOctets? octets = some response
  | .error .malformed => result = .error .malformed
  | .error .incomplete => result = .error .incomplete
  | .error .badThreshold => False

section
variable {choice other : Option String} {octets : Octets} {request : Request}

/-- Every threshold leads to the same answer. -/
theorem answer_eq_of_thresholds (h : (Journal.threshold? (choice.getD "")).isSome)
    (h' : (Journal.threshold? (other.getD "")).isSome) :
    (run other octets).answer = (run choice octets).answer := by
  obtain ⟨_, h⟩ := Option.isSome_iff_exists.1 h
  obtain ⟨_, h'⟩ := Option.isSome_iff_exists.1 h'
  unfold run
  rw [h, h']
  cases Request.ofOctets? octets <;> rfl

/-- On octets that stand for a request, with any threshold, a run answers with the outcome of the
generation for that request; the threshold does not matter, on these octets and on any others. -/
theorem run_serialized (hwritten : request.IsWritten octets) (hsize : octets.length < sizeLimit)
    (hanswer : ∀ response, (generate request none).result = .ok response →
      response.toOctets.length < sizeLimit)
    (hthreshold : (Journal.threshold? (choice.getD "")).isSome) :
    Answers (generate request none).result (run choice octets).answer ∧
      ∀ other, (Journal.threshold? (other.getD "")).isSome →
        ∀ input, (run other input).answer = (run choice input).answer := by
  refine ⟨?_, fun other hother input => answer_eq_of_thresholds hthreshold hother⟩
  obtain ⟨threshold, hthreshold⟩ := Option.isSome_iff_exists.1 hthreshold
  have hread := hwritten.read hsize
  rcases hresult : (generate request none).result with (- | - | reason) | response
  · have hrun : (run choice octets).answer = .error .malformed := by
      simp only [run, hthreshold, hread, hresult]
    rw [hrun]
    rfl
  · have hrun : (run choice octets).answer = .error .incomplete := by
      simp only [run, hthreshold, hread, hresult]
    rw [hrun]
    rfl
  · exact absurd hresult (generate_ne_rejected reason)
  · have hrun : (run choice octets).answer = .ok response.toOctets := by
      simp only [run, hthreshold, hread, hresult]
    have hfeatures : response.supportedFeatures < 1 <<< 64 := by
      rw [features_of_generate hresult]
      decide
    rw [hrun]
    exact ⟨response, rfl, response.ofOctets?_toOctets hfeatures (hanswer response hresult)⟩

end

/-- A request that is refused, because a method with tool metadata is streaming. -/
def streamRequest : Request where
  toGenerate := ["harbor.proto"]
  files := [{
    name := "harbor.proto"
    package := "harbor"
    messages := [{
      name := "Ship"
      fields := [{
        name := "masts", number := 1, type := .int32
        options := FieldMetadata.toOptions { required := true } }]
      nested := [{ name := "Crew" }] }]
    services := [{
      name := "Harbor"
      methods := [{
        name := "Watch", input := ".harbor.Ship", serverStreaming := true
        options := ToolMetadata.toOptions {} }] }] }]

def streamAnswer : Response where
  supportedFeatures := 1
  error := some "harbor.Harbor.Watch (harbor.proto) is a streaming method and cannot be a tool"

theorem run_serialized_stream :
    ∃ octets, (run (some "debug") streamRequest.toOctets).answer = .ok octets ∧
      Response.ofOctets? octets = some streamAnswer := by
  have hresult : (generate streamRequest none).result = .ok streamAnswer := by decide +kernel
  have hfits : streamRequest.fits = true := by decide +kernel
  have hsize : ∀ response, (generate streamRequest none).result = .ok response →
      response.toOctets.length < sizeLimit := by
    intro response h
    cases hresult.symm.trans h
    decide +kernel
  have hthreshold : (Journal.threshold? ((some "debug").getD "")).isSome := by decide +kernel
  have hanswers := (run_serialized (Request.isWritten_toOctets hfits) (by decide +kernel) hsize
    hthreshold).1
  rw [hresult] at hanswers
  cases hanswer : (run (some "debug") streamRequest.toOctets).answer with
  | error abort => cases abort <;> rw [hanswer] at hanswers <;> cases hanswers
  | ok octets =>
    rw [hanswer] at hanswers
    obtain ⟨response, hresponse, hread⟩ := hanswers
    cases hresponse
    exact ⟨octets, rfl, hread⟩

end ToolBindings
