import ApiSchema.Generator
import Mathlib

set_option autoImplicit false

namespace ApiSchema

open ApiSchema.Json ApiSchema.Naming

namespace Lookup

variable {α β : Type}

theorem bind_eq_ok {first : Lookup α} {next : α → Lookup β} {value : β}
    (success : (first >>= next).result = .ok value) :
    ∃ middle, first.result = .ok middle ∧ (next middle).result = .ok value := by
  change (first.bind next).result = .ok value at success
  unfold bind at success
  split at success
  · cases success
  · rename_i middle found
    exact ⟨middle, found, success⟩

end Lookup

/-- What is made of documentation: a notice, or the models of two forests under the names of a
method. -/
inductive Read {α : Type} (dialect : Dialect α) : Method → Prop
  | notice (comment : String) : Read dialect (.unknown comment)
  | assembled {raw : String} {names : ApiName} (named : apiName? raw = some names)
      (context : Context) (params responses : List (Tree α)) (comments : List String) :
      Read dialect { assemble dialect context names params responses with comments }

namespace Read

variable {α : Type} {dialect : Dialect α} {method : Method}

theorem of_noted {comment : String} (success : (noted comment).result = .ok method) :
    Read dialect method := by
  cases success
  exact .notice comment

theorem of_ite {condition : Prop} [Decidable condition] {comment : String} {next : Lookup Method}
    (success : (if condition then noted comment else next).result = .ok method)
    (read : next.result = .ok method → Read dialect method) : Read dialect method := by
  split at success
  · exact .of_noted success
  · exact read success

theorem of_assemble {raw : String} {names : ApiName} (named : apiName? raw = some names)
    {context : Context} {params responses : List (Tree α)}
    (success : (pure (assemble dialect context names params responses) : Lookup Method).result =
      .ok method) : Read dialect method := by
  cases success
  exact .assembled named context params responses context.sourceUrl.toList

end Read

theorem Structured.Outline.read {outline : Structured.Outline} {platform : String}
    {dialect : Dialect Structured.Entry} {structures : Structures Structured.Entry}
    {context : Context} {method : Method}
    (success : (outline.method platform dialect structures context).result = .ok method) :
    Read dialect method := by
  unfold Structured.Outline.method at success
  split at success
  · exact .of_noted success
  · rename_i names named
    obtain ⟨⟨first, params⟩, _, success⟩ := Lookup.bind_eq_ok success
    obtain ⟨⟨second, responses⟩, _, success⟩ := Lookup.bind_eq_ok success
    dsimp only at success
    split at success
    · cases success
      exact .assembled named context params responses _
    · exact .of_assemble named success

theorem Structured.read {σ : Type} {envelope : Record (Envelope σ)} {succeeds : σ → Bool}
    {keys : Structured.Keys} {platform : String} {dialect : Dialect Structured.Entry}
    {context : Context} {payload : String} {method : Method}
    (success : (Structured.parse envelope succeeds keys platform dialect context payload).result =
      .ok method) : Read dialect method := by
  obtain ⟨opened, _, success⟩ := Lookup.bind_eq_ok success
  refine .of_ite success fun success => .of_ite success fun success => ?_
  obtain ⟨outline, _, success⟩ := Lookup.bind_eq_ok success
  exact outline.read success

/-- The outline of a payload that carries one. -/
def Alibaba.outline? (payload : String) : Option Alibaba.Outline :=
  match (readJson Alibaba.envelope.decode payload).result with
  | .error _ => none
  | .ok envelope =>
      if !envelope.status || envelope.data.isBlank then none
      else (readJsonValue Alibaba.outline.decode envelope.data).result.toOption

theorem Alibaba.read_outline {context : Context} {payload : String} {method : Method}
    (success : (Alibaba.parse context payload).result = .ok method) :
    (∃ comment, method = .unknown comment) ∨
      ∃ outline names, Alibaba.outline? payload = some outline ∧
        apiName? outline.name = some names ∧
        method = assemble Alibaba.dialect context names outline.params outline.responses := by
  obtain ⟨envelope, opened, success⟩ := Lookup.bind_eq_ok success
  split at success
  · cases success
    exact Or.inl ⟨_, rfl⟩
  · rename_i status
    split at success
    · cases success
      exact Or.inl ⟨_, rfl⟩
    · rename_i filled
      obtain ⟨outline, decoded, success⟩ := Lookup.bind_eq_ok success
      split at success
      · cases success
        exact Or.inl ⟨_, rfl⟩
      · rename_i names named
        cases success
        refine Or.inr ⟨outline, names, ?_, named, rfl⟩
        unfold Alibaba.outline?
        simp only [opened, status, filled, Bool.or_self, Bool.false_eq_true, ↓reduceIte, decoded]
        rfl

theorem Alibaba.read {context : Context} {payload : String} {method : Method}
    (success : (Alibaba.parse context payload).result = .ok method) :
    Read Alibaba.dialect method := by
  rcases Alibaba.read_outline success with ⟨comment, rfl⟩ | ⟨outline, names, _, named, rfl⟩
  · exact .notice comment
  · exact .assembled named context outline.params outline.responses context.sourceUrl.toList

theorem Alipay.read {context : Context} {payload : String} {method : Method}
    (success : (Alipay.parse context payload).result = .ok method) : Read Alipay.dialect method := by
  obtain ⟨envelope, _, success⟩ := Lookup.bind_eq_ok success
  refine .of_ite success fun success => ?_
  split at success
  · exact .of_noted success
  · obtain ⟨api, _, success⟩ := Lookup.bind_eq_ok success
    split at success
    · exact .of_noted success
    · rename_i names named
      obtain ⟨params, _, success⟩ := Lookup.bind_eq_ok success
      obtain ⟨responses, _, success⟩ := Lookup.bind_eq_ok success
      exact .of_assemble named success

theorem Doudian.read {context : Context} {payload : String} {method : Method}
    (success : (Doudian.parse context payload).result = .ok method) :
    Read Doudian.dialect method := by
  obtain ⟨envelope, _, success⟩ := Lookup.bind_eq_ok success
  refine .of_ite success fun success => .of_ite success fun success => ?_
  obtain ⟨article, _, success⟩ := Lookup.bind_eq_ok success
  split at success
  · exact .of_noted success
  · rename_i names named
    obtain ⟨content, _, success⟩ := Lookup.bind_eq_ok success
    exact .of_assemble named success

theorem Weixin.readPage {context : Context} {page : Page} {method : Method}
    (success : (Weixin.parsePage context page).result = .ok method) :
    Read Weixin.dialect method := by
  unfold Weixin.parsePage at success
  dsimp only at success
  split at success
  · exact .of_noted success
  · split at success
    · exact .of_noted success
    · rename_i names found
      obtain ⟨url, _, named⟩ := Option.bind_eq_some_iff.mp found
      obtain ⟨params, _, success⟩ := Lookup.bind_eq_ok success
      obtain ⟨responses, _, success⟩ := Lookup.bind_eq_ok success
      split at success
      · cases success
        exact .assembled named context params responses _
      · exact .of_assemble named success

theorem Weixin.read {context : Context} {payload : String} {method : Method}
    (success : (Weixin.parse context payload).result = .ok method) : Read Weixin.dialect method := by
  obtain ⟨page, _, success⟩ := Lookup.bind_eq_ok success
  exact Weixin.readPage success

end ApiSchema
