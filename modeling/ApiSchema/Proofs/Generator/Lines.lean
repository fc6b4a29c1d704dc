import ApiSchema.Proofs.Flatten.Models
import ApiSchema.Proofs.Platform.Builtin
import ApiSchema.Proofs.Platform.Failures
import ApiSchema.Proofs.Target.Lines
import ApiSchema.Proofs.Unify.Names

/-!
One line, one element. What documentation says of fields is put on one line when it is read, and so
is what a report quotes. Other texts are written as they are, and they alone can break a line.
-/

set_option autoImplicit false

namespace ApiSchema

open ApiSchema.Json ApiSchema.Naming

namespace Dialect

variable {α : Type} (dialect : Dialect α)

/-- What is said of a field is put on one line, whatever the documentation says. -/
theorem plain_field (label : α) : (dialect.field label).Plain where
  description := Text.oneLine_plain (dialect.description label)
  sample := by
    intro sample given
    have written := (Option.filter_eq_some_iff.mp given).1
    obtain ⟨original, _, rfl⟩ := Option.map_eq_some_iff.mp written
    exact Text.oneLine_plain original

theorem plain_reference {field : Field} (plain : field.Plain) (isList : Bool) (model : String) :
    (reference field isList model).Plain := by
  unfold reference
  split
  · exact ⟨plain.description, plain.sample⟩
  · exact ⟨plain.description, plain.sample⟩

theorem plain_models (rootName : String) (kind : ModelKind) (forest : List (Tree α)) :
    ∀ model ∈ dialect.models rootName kind forest, ∀ field ∈ model.fields, field.Plain := by
  obtain ⟨outer, nested⟩ := (dialect.flattened "" [] forest).forall_fields (P := Field.Plain)
    (fun tree _ _ => dialect.plain_field tree.label)
    fun tree _ _ isList path => plain_reference (dialect.plain_field tree.label) isList _
  rw [models_eq, List.forall_mem_append, List.forall_mem_singleton]
  exact ⟨nested, outer⟩

end Dialect

/-- Unification changes types only, so what is said of fields stays on one line. -/
theorem Method.Plain.unify {method : Method} (plain : method.Plain) : method.unify.Plain := by
  intro model member field inside
  obtain ⟨original, before, ledger, _, _, fields⟩ := Method.origin_unify member
  rw [fields] at inside
  obtain ⟨source, given, rfl⟩ := List.mem_map.mp inside
  have said := plain original before source given
  exact ⟨said.description, said.sample⟩

theorem Read.plain {α : Type} {dialect : Dialect α} {method : Method} (read : Read dialect method) :
    method.Plain := by
  cases read with
  | notice comment => simp [Method.Plain, Method.models, Method.unknown]
  | @assembled raw names named context params responses comments =>
      change ∀ model ∈ dialect.models (names.method ++ "Param") .param params ++
        dialect.models (names.method ++ "Response") .response responses,
          ∀ field ∈ model.fields, field.Plain
      rw [List.forall_mem_append]
      exact ⟨dialect.plain_models _ .param params, dialect.plain_models _ .response responses⟩

section

variable {target : Target} (known : target ∈ builtinTargets)

include known

theorem oneLine_comment_builtin {text : String} : OneLine (target.comment text) ↔ OneLine text := by
  unfold builtinTargets at known
  rw [List.mem_pair] at known
  rcases known with rfl | rfl
  · exact Python.oneLine_comment
  · exact TypeScript.oneLine_comment

theorem oneLines_emit_builtin {method : Method} {options : EmitOptions} (plain : method.Plain) :
    OneLines (target.emit method options) ↔ OneLines (method.rawTexts options) := by
  unfold builtinTargets at known
  rw [List.mem_pair] at known
  rcases known with rfl | rfl
  · exact Python.oneLines_emit plain
  · exact TypeScript.oneLines_emit plain

end

namespace Registry

variable {registry : Registry} {failure : Failure}

theorem mem_of_target {language : String} {target : Target}
    (found : registry.target language = .ok target) : target ∈ registry.targets := by
  unfold Registry.target at found
  split at found
  · rename_i known
    cases found
    exact List.mem_of_find?_eq_some known
  · cases found

theorem failure_of_target {language : String} (missed : registry.target language = .error failure) :
    failure = .unknownLanguage language := by
  unfold Registry.target at missed
  split at missed
  · cases missed
  · cases missed
    rfl

theorem mem_of_platform {id : String} {platform : Platform}
    (found : registry.platform id = .ok platform) : platform ∈ registry.platforms := by
  unfold Registry.platform at found
  split at found
  · rename_i known
    cases found
    exact List.mem_of_find?_eq_some known
  · cases found

theorem failure_of_platform {id : String} (missed : registry.platform id = .error failure) :
    failure = .unknownPlatform id := by
  unfold Registry.platform at missed
  split at missed
  · cases missed
  · cases missed
    rfl

end Registry

namespace Generator

variable {generator : Generator} {platform : Platform} {documentation : Documentation}
  {sourceUrl : Option String}

theorem read_blames (known : platform ∈ builtinPlatforms) :
    (generator.read platform documentation sourceUrl).Blames generator.source platform.id := by
  have unsupported {id : String} (word : OneLine id) :
      (Lookup.fail (.pageUnsupported id) : Lookup Method).Blames generator.source id := by
    refine .ofExcept fun failure failed => ?_
    cases failed
    change OneLine ("vendor " ++ id ++ " does not parse rendered documents")
    simp +decide [word]
  unfold builtinPlatforms at known
  simp only [List.mem_cons, List.not_mem_nil, or_false] at known
  unfold Generator.read
  cases documentation with
  | payload text =>
      rcases known with rfl | rfl | rfl | rfl | rfl | rfl
      · exact Doudian.blames _ text
      · exact Weixin.blames _ text
      · exact Alipay.blames _ text
      · exact Alibaba.blames _ text
      · exact Kuaishou.blames _ text
      · exact Taobao.blames _ text
  | page page =>
      rcases known with rfl | rfl | rfl | rfl | rfl | rfl
      · exact unsupported (by decide)
      · exact Weixin.page_blames _ page
      · exact unsupported (by decide)
      · exact unsupported (by decide)
      · exact unsupported (by decide)
      · exact unsupported (by decide)

theorem parse_blames (known : platform ∈ builtinPlatforms) :
    (generator.parse platform documentation sourceUrl).Blames generator.source platform.id :=
  .bind (read_blames known) fun _ => .ok _

theorem plain_parse (known : platform ∈ builtinPlatforms) {method : Method}
    (success : (generator.parse platform documentation sourceUrl).result = .ok method) :
    method.Plain := by
  obtain ⟨read, found, rfl⟩ := parse_eq_ok success
  obtain ⟨α, dialect, _, reads⟩ := read_builtin known found
  exact reads.plain.unify

/-- The texts that are written as they are for documentation of a platform: the raw texts of the
method, what the source says of a structure that was asked for and is not to be had, and the id of
such a structure that has no members. -/
inductive RawText (generator : Generator) (platform : Platform) (documentation : Documentation) :
    String → Prop
  | ofMethod {method : Method} {text : String}
      (parsed : (generator.parse platform documentation none).result = .ok method)
      (raw : text ∈ method.rawTexts
        (.of generator.settings (generator.settings.basesFor platform.id platform.bases))) :
      RawText generator platform documentation text
  | refused {failure : Failure} {wanted : String}
      (failed : (generator.parse platform documentation none).result = .error failure)
      (asked : wanted ∈ (generator.parse platform documentation none).requested)
      (refused : generator.source.fetch platform.id wanted = .error failure) :
      RawText generator platform documentation failure.text
  | memberless {wanted : String}
      (failed : (generator.parse platform documentation none).result =
        .error (.lookup wanted "payload carries no structure members")) :
      RawText generator platform documentation wanted

/-- The texts that are written as they are for documentation: an unknown language, an unknown id, or
a raw text for the documentation of a platform. -/
def WritesRaw (generator : Generator) (id language : String) (documentation : Documentation)
    (text : String) : Prop :=
  match Registry.builtin.target language, Registry.builtin.platform id with
  | .error _, _ => text = language
  | .ok _, .error _ => text = id
  | .ok _, .ok platform => generator.RawText platform documentation text

theorem oneLines_renderOutcome (known : platform ∈ builtinPlatforms) {target : Target}
    (spoken : target ∈ builtinTargets) :
    OneLines (generator.renderOutcome platform target
        (generator.parse platform documentation none).result) ↔
      ∀ text, generator.RawText platform documentation text → OneLine text := by
  cases outcome : (generator.parse platform documentation none).result with
  | ok method =>
      have lines : OneLines (generator.render platform target method) ↔ _ :=
        oneLines_emit_builtin spoken (plain_parse known outcome)
      change OneLines (generator.render platform target method) ↔ _
      rw [lines]
      constructor
      · intro holds text raw
        cases raw with
        | ofMethod parsed raw =>
            rw [outcome] at parsed
            cases parsed
            exact holds _ raw
        | refused failed _ _ => cases outcome.symm.trans failed
        | memberless failed => cases outcome.symm.trans failed
      · exact fun holds text raw => holds text (.ofMethod outcome raw)
  | error failure =>
      change OneLines [target.comment failure.text] ↔ _
      rw [oneLines_cons, and_iff_left oneLines_nil, oneLine_comment_builtin spoken]
      constructor
      · intro holds text raw
        cases raw with
        | ofMethod parsed _ => cases outcome.symm.trans parsed
        | refused failed _ _ =>
            cases outcome.symm.trans failed
            exact holds
        | memberless failed =>
            cases outcome.symm.trans failed
            change OneLine ("structure " ++ text ++ " lookup failed: " ++ _) at holds
            simp only [oneLine_append] at holds
            exact holds.1.1.2
      · intro holds
        cases parse_blames known failure outcome with
        | report plain => exact plain
        | refused asked refused => exact holds _ (.refused outcome asked refused)
        | @memberless id asked =>
            have plain : OneLine id := holds id (.memberless outcome)
            change OneLine ("structure " ++ id ++ " lookup failed: " ++
              "payload carries no structure members")
            simp +decide [plain]

/-- The lines for documentation are one line each, exactly if the texts are that are written as they
are. -/
theorem oneLines_generate_iff (generator : Generator) (id language : String)
    (documentation : Documentation) :
    OneLines (generator.generate .builtin id language documentation).2 ↔
      ∀ text, generator.WritesRaw id language documentation text → OneLine text := by
  unfold generate WritesRaw
  cases spoken : Registry.builtin.target language with
  | error failure =>
      cases Registry.failure_of_target spoken
      change OneLines [Python.comment ("unsupported language: " ++ language)] ↔ _
      simp +decide [Python.oneLine_comment]
  | ok target =>
      have named := Registry.mem_of_target spoken
      cases known : Registry.builtin.platform id with
      | error failure =>
          cases Registry.failure_of_platform known
          change OneLines [target.comment ("unknown vendor: " ++ id)] ↔ _
          simp +decide [oneLine_comment_builtin named]
      | ok platform => exact oneLines_renderOutcome (Registry.mem_of_platform known) named

def brokenPage : Json.Value := .object [
  ("url", .string "https://developers.weixin.qq.com/doc/channels/a\nimport os"),
  ("blocks", .object [("接口调用请求说明", .string "POST https://api.weixin.qq.com/a/b")])]

/-- The address of a page is written as it is, and what follows its line break leaves the comment. -/
theorem generate_brokenPage :
    (offline.generate .builtin "weixin" "python" (.payload brokenPage.compact)).2.head? =
        some "# https://developers.weixin.qq.com/doc/channels/a\nimport os" ∧
      ¬ OneLines (offline.generate .builtin "weixin" "python" (.payload brokenPage.compact)).2 := by
  have first : (offline.generate .builtin "weixin" "python" (.payload brokenPage.compact)).2.head? =
      some "# https://developers.weixin.qq.com/doc/channels/a\nimport os" := by
    decide +kernel
  refine ⟨first, fun holds => ?_⟩
  have plain := holds _ (List.mem_of_head? first)
  revert plain
  decide

end Generator

end ApiSchema
