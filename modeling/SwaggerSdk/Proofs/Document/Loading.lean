import SwaggerSdk.Document.Load
import SwaggerSdk.Proofs.Peels

/-!
# What it takes to load a document

A text is loaded if it can be read in its format and is of a version that is understood.
-/

namespace SwaggerSdk

theorem Json.readDocument_eq_ok_iff {text : String} {document : Document} :
    readDocument text = .ok document ↔
      dataFormat.document ⟨depthLimit, (Tree.ofText text).1⟩ = .ok document ∧ (Tree.ofText text).2 = true := by
  unfold readDocument
  obtain ⟨tree, isWhole⟩ := Tree.ofText text
  constructor
  · intro h
    obtain ⟨found, reads, h⟩ := Peels.bind_eq_pure h
    cases isWhole with
    | false => cases h
    | true =>
      obtain rfl := Peels.pure_inj h
      exact ⟨reads, rfl⟩
  · rintro ⟨reads, rfl⟩
    simp only [bind, Except.bind, reads]
    rfl

namespace Document

theorem checkVersion_eq_ok_iff {document checked : Document} :
    checkVersion document = .ok checked ↔ document = checked ∧ document.foreignVersion? = none := by
  unfold checkVersion
  split
  · next foreign => simp [foreign]
  · next understood => simp [understood]

theorem ofText_json_eq_ok_iff {text : String} {document : Document} :
    ofText .json text = .ok document ↔ Json.readDocument text = .ok document ∧ document.foreignVersion? = none := by
  cases read : Json.readDocument text with
  | error cause => simp [ofText, read, Except.mapError, Except.bind]
  | ok found =>
    simp only [ofText, read, Except.mapError, Except.bind, checkVersion_eq_ok_iff, Except.ok.injEq]
    exact and_congr_right fun same => by rw [same]

theorem ofText_yaml_eq_ok_iff {text : String} {document : Document} :
    ofText .yaml text = .ok document ↔ Yaml.readDocument text = some document ∧ document.foreignVersion? = none := by
  cases read : Yaml.readDocument text with
  | none => simp [ofText, read]
  | some found =>
    simp only [ofText, read, checkVersion_eq_ok_iff, Option.some.injEq]
    exact and_congr_right fun same => by rw [same]

theorem foreignVersion?_of_ofText {format : TextFormat} {text : String} {document : Document}
    (loaded : ofText format text = .ok document) : document.foreignVersion? = none := by
  cases format with
  | json => exact (ofText_json_eq_ok_iff.mp loaded).2
  | yaml => exact (ofText_yaml_eq_ok_iff.mp loaded).2

end Document

end SwaggerSdk
