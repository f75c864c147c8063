import SwaggerSdk.Generate
import SwaggerSdk.Proofs.Json.WrittenValues
import SwaggerSdk.Proofs.Text.Cutting

/-!
# The manifest is what it should be

The manifest is read as JSON again. `manifest_faithful` says that it is valid and holds the members that it should, in
their order, whatever the name of the SDK and the title of the document are made of.
-/

namespace SwaggerSdk.Sdk

/-! ### The members of the manifest -/

/-- The members that a manifest should have, in their order. -/
def manifestMembers (language : Language) (name description : String) : List (Value × Value) :=
  match language with
  | .typescript => [
    (.text "name", .text name),
    (.text "version", .text "0.0.0"),
    (.text "description", .text description),
    (.text "private", .flag true),
    (.text "type", .text "module"),
    (.text "main", .text "index.ts"),
    (.text "types", .text "index.ts"),
    (.text "dependencies", .map [(.text "axios", .text "^1.7.0")]),
    (.text "devDependencies", .map [(.text "typescript", .text "^5.4.0")])]
  | .javascript => [
    (.text "name", .text name),
    (.text "version", .text "0.0.0"),
    (.text "description", .text description),
    (.text "private", .flag true),
    (.text "type", .text "module"),
    (.text "main", .text "index.js"),
    (.text "dependencies", .map [(.text "axios", .text "^1.7.0")])]

theorem valueOf_manifest (language : Language) (config : Config) (model : Model) :
    Json.valueOf (manifest language config model) =
      .map (manifestMembers language (packageName config.sdkName) (description config model)) := by
  cases language <;> rfl

theorem height_manifest (language : Language) (config : Config) (model : Model) :
    (Json.treeOf (manifest language config model)).height = 2 := by
  cases language <;> rfl

theorem ofText_render_manifest (language : Language) (config : Config) (model : Model) :
    Json.Tree.ofText (render language config model .manifest) = (Json.treeOf (manifest language config model), true) :=
  Json.ofText_writeIndented _ fun c inside => by
    obtain rfl : c = '\n' := List.mem_singleton.mp inside
    rfl

/-! ### The description -/

section Description

variable (config : Config) (model : Model)

def titled (name title : List Char) : List Char :=
  name ++ ' ' :: ("client".toList ++ ' ' :: ("for".toList ++ ' ' :: title))

theorem toList_titled (name title : String) : (name ++ " client for " ++ title).toList = titled name.toList title.toList := by
  rw [String.toList_append, String.toList_append, List.append_assoc]
  rfl

theorem isCollapsed_description : Text.IsCollapsed (description config model).toList := by
  have word (plain : String) (solid : plain.toList.any Text.isBlank = false) : Text.IsTidy plain.toList :=
    Text.isTidy_of_solid (by simpa using solid)
  have client := word "client" (by decide)
  have connective := word "for" (by decide)
  have title := Text.isTidy_oneLine model.title
  have ending := connective.join title.toIsCollapsed title.first
  rw [description, toList_titled]
  exact (Text.isTidy_oneLine config.sdkName).join (client.join ending connective.first) client.first

theorem fields_description : Text.fields (description config model).toList =
    Text.fields (config.sdkName ++ " client for " ++ model.title).toList := by
  have blank : Text.isBlank ' ' := rfl
  rw [description, toList_titled, toList_titled, titled, titled]
  simp only [Text.fields_append_cons blank, Text.fields_oneLine]

end Description

/-- Whatever the name of the SDK and the title are, the manifest is valid JSON and holds the members that it should, in
their order: the name of the package, and a description on one line, in which every run of blanks is one space. -/
theorem manifest_faithful (language : Language) (config : Config) (model : Model) :
    ∃ tree description, Json.Tree.ofText (render language config model .manifest) = (tree, true) ∧ tree.isValid ∧
      Json.readTyped Json.depthLimit tree =
        .ok (.map (manifestMembers language (packageName config.sdkName) description)) ∧
      description = Text.oneLine config.sdkName ++ " client for " ++ Text.oneLine model.title ∧
      Text.IsCollapsed description.toList ∧
      Text.fields description.toList = Text.fields (config.sdkName ++ " client for " ++ model.title).toList := by
  have deep : (Json.treeOf (manifest language config model)).height < Json.depthLimit := by
    rw [height_manifest]
    decide
  have read := Json.readTyped_treeOf (manifest language config model) deep
  rw [valueOf_manifest] at read
  exact ⟨_, description config model, ofText_render_manifest language config model, Json.isValid_treeOf _, read, rfl,
    isCollapsed_description config model, fields_description config model⟩

end SwaggerSdk.Sdk
