import TablePhrase.Json.Decoder

/-!
The settings of the engine.
-/

namespace TablePhrase

structure Settings where
  /-- Candidates of a smaller probability are not considered. -/
  confidenceThreshold : Binary64
  maxCandidates : Nat
  moduleAlias : String
  /-- The variable that takes the result of a call on the module. -/
  resultBinding : String
  /-- What is reported when no candidate is left. -/
  notSureMarker : String
deriving DecidableEq, Inhabited

namespace Settings

def standard : Settings :=
  ⟨.ofQuotient false 1 2, 4, "pd", "result", "NOT_SURE"⟩

def ofJson? (j : Json) : Option Settings := do
  let fields ← j.fields?
    ["confidence_threshold", "max_candidates", "module_alias", "result_binding",
      "not_sure_marker"] 0
  let threshold ← Json.defaulted fields "confidence_threshold" standard.confidenceThreshold
    Json.binary64?
  let maxCandidates ← Json.defaulted fields "max_candidates" standard.maxCandidates Json.nat?
  let moduleAlias ← Json.defaulted fields "module_alias" standard.moduleAlias Json.text?
  let resultBinding ← Json.defaulted fields "result_binding" standard.resultBinding Json.text?
  let marker ← Json.defaulted fields "not_sure_marker" standard.notSureMarker Json.text?
  return ⟨threshold, maxCandidates, moduleAlias, resultBinding, marker⟩

end Settings
end TablePhrase
