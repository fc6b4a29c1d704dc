import ApiSchema.CommandLine
import ApiSchema.Proofs.Json.Printed

set_option autoImplicit false

namespace ApiSchema

open ApiSchema.Json

theorem ModelKind.reads_text (kind : ModelKind) :
    Decoder.Reads ModelKind.decode (.string kind.text) kind := by
  apply Decode.reads_choice
  cases kind <;> rfl

/-- A field is read from what it is written as. -/
theorem Field.reads_encode (field : Field) :
    Decoder.Reads Field.record.decode field.encode field := by
  apply Record.reads_decode (by decide)
  simp only [List.append_assoc, List.cons_append, List.nil_append]
  rw [← List.append_nil (optionalMember "maxLength" _)]
  refine .required (Decode.reads_text field.name) ?_
  refine .required (Decode.reads_text field.type) ?_
  refine .optional field.element Decode.reads_text nofun rfl ?_
  refine .required (Decode.reads_text field.description) ?_
  refine .optional field.sample Decode.reads_text nofun rfl ?_
  refine .required (Decode.reads_flag field.required) ?_
  refine .defaulted (Decode.reads_flag field.deprecated) ?_
  refine .defaulted (Decode.reads_flag field.removed) ?_
  refine .optional field.minLength Decode.reads_unsigned nofun rfl ?_
  refine .optional field.maxLength Decode.reads_unsigned nofun rfl ?_
  exact .nil field

/-- A model is read from what it is written as. -/
theorem Model.reads_encode (model : Model) :
    Decoder.Reads Model.record.decode model.encode model := by
  apply Record.reads_decode (by decide)
  refine .required (Decode.reads_text model.name) ?_
  refine .required model.kind.reads_text ?_
  refine .required (Decode.reads_list fun field _ => field.reads_encode) ?_
  exact .nil model

/-- A method is read from what it is written as. -/
theorem Method.reads_encode (method : Method) :
    Decoder.Reads Method.record.decode method.encode method := by
  apply Record.reads_decode (by decide)
  rw [List.append_assoc]
  refine .optional method.name Decode.reads_text nofun rfl ?_
  refine .optional method.requestName Decode.reads_text nofun rfl ?_
  refine .required (Decode.reads_list fun model _ => model.reads_encode) ?_
  refine .required (Decode.reads_list fun model _ => model.reads_encode) ?_
  refine .required (Decode.reads_list fun comment _ => Decode.reads_text comment) ?_
  exact .nil method

/-- The lengths of the field have at most sixty-four bits. -/
def Field.LengthsFit (field : Field) : Prop :=
  ∀ length ∈ field.minLength.toList ++ field.maxLength.toList, length < 2 ^ 64

def Method.LengthsFit (method : Method) : Prop :=
  ∀ model ∈ method.models, ∀ field ∈ model.fields, field.LengthsFit

instance (field : Field) : Decidable field.LengthsFit :=
  inferInstanceAs (Decidable (∀ length ∈ field.minLength.toList ++ field.maxLength.toList,
    length < 2 ^ 64))

instance (method : Method) : Decidable method.LengthsFit :=
  inferInstanceAs (Decidable (∀ model ∈ method.models, ∀ field ∈ model.fields, field.LengthsFit))

variable {levels : Nat}

theorem fits_optionalMember {key : String} {value : Option Value}
    (fits : ∀ present ∈ value, Fits levels present) :
    ∀ member ∈ optionalMember key value, Fits levels member.2 := by
  cases value with
  | none => nofun
  | some present =>
      change ∀ member ∈ [(key, present)], _
      rw [List.forall_mem_singleton]
      exact fits present rfl

theorem fits_texts (texts : Option String) :
    ∀ present ∈ texts.map Value.string, Fits levels present := by
  cases texts <;> simp [Fits.string]

theorem fits_lengths {lengths : Option Nat} (small : ∀ length ∈ lengths, length < 2 ^ 64) :
    ∀ present ∈ lengths.map Value.ofNat, Fits levels present := by
  cases lengths with
  | none => nofun
  | some length => simpa using Fits.natural levels (small length rfl)

theorem Field.fits_encode {field : Field} (lengths : field.LengthsFit) :
    Fits (levels + 1) field.encode := by
  have least : ∀ length ∈ field.minLength, length < 2 ^ 64 :=
    fun length held => lengths length (by simp [Option.mem_def.mp held])
  have greatest : ∀ length ∈ field.maxLength, length < 2 ^ 64 :=
    fun length held => lengths length (by simp [Option.mem_def.mp held])
  refine .object ?_
  simp only [List.forall_mem_append, List.forall_mem_cons, List.not_mem_nil, false_implies,
    implies_true, and_true, and_assoc]
  exact ⟨.string _ _, .string _ _, fits_optionalMember (fits_texts _), .string _ _,
    fits_optionalMember (fits_texts _), .bool _ _, .bool _ _, .bool _ _,
    fits_optionalMember (fits_lengths least), fits_optionalMember (fits_lengths greatest)⟩

theorem Model.fits_encode {model : Model} (lengths : ∀ field ∈ model.fields, field.LengthsFit) :
    Fits (levels + 3) model.encode := by
  have fields : Fits (levels + 2) (.array (model.fields.map Field.encode)) := by
    refine .array ?_
    rw [List.forall_mem_map]
    exact fun field member => Field.fits_encode (lengths field member)
  refine .object ?_
  simp only [List.forall_mem_cons, List.not_mem_nil, false_implies, implies_true, and_true]
  exact ⟨.string _ _, .string _ _, fields⟩

theorem Method.fits_encode {method : Method} (lengths : method.LengthsFit) :
    Fits (levels + 5) method.encode := by
  have models (listed : List Model) (within : ∀ model ∈ listed, model ∈ method.models) :
      Fits (levels + 4) (.array (listed.map Model.encode)) := by
    refine .array ?_
    rw [List.forall_mem_map]
    exact fun model member => Model.fits_encode (lengths model (within model member))
  have params := models method.params fun model member => List.mem_append_left _ member
  have responses := models method.responses fun model member => List.mem_append_right _ member
  have comments : Fits (levels + 4) (.ofTexts method.comments) := by
    refine .array ?_
    rw [List.forall_mem_map]
    exact fun comment _ => .string _ comment
  refine .object ?_
  simp only [List.forall_mem_append, List.forall_mem_cons, List.not_mem_nil, false_implies,
    implies_true, and_true, and_assoc]
  exact ⟨fits_optionalMember (fits_texts _), fits_optionalMember (fits_texts _), params, responses,
    comments⟩

/-- A printed method is read as the method. -/
theorem decodeText_pretty {method : Method} (lengths : method.LengthsFit) :
    decodeText Method.record.decode (method.encode.pretty ++ "\n") = .ok method := by
  have fits : Fits depthLimit method.encode := Method.fits_encode lengths
  obtain ⟨node, carries, read⟩ := readDocument_pretty fits
  simp only [decodeText, read, method.reads_encode node carries]

/-- What is dumped for a method is read as the method, so it renders to the lines of the method. -/
theorem CommandLine.decodeText_report {method : Method} (lengths : method.LengthsFit)
    (generator : Generator) (platform : Platform) (target : Target) :
    ∃ lines, report generator platform target true (.ok method) = .ok lines ∧
      decodeText Method.record.decode (Outcome.printed lines).output = .ok method ∧
      (decodeText Method.record.decode (Outcome.printed lines).output).map
          (fun decoded => generator.renderOutcome platform target (.ok decoded)) =
        .ok (generator.renderOutcome platform target (.ok method)) := by
  have output : (Outcome.printed [method.encode.pretty]).output = method.encode.pretty ++ "\n" := by
    simp [Outcome.printed, unlines]
  have decoded := decodeText_pretty lengths
  rw [← output] at decoded
  refine ⟨[method.encode.pretty], rfl, decoded, ?_⟩
  rw [decoded]
  rfl

/-- A method with texts that are escaped, the greatest length, and parts that are absent. -/
def dumped : Method where
  name := some "OrderGet"
  requestName := none
  params := [
    ⟨"Order", .child, [
      { Field.of "id" "int" with
        sample := some "\"1\"", required := true, minLength := some 0,
        maxLength := some 18446744073709551615 },
      { Field.listOf "tags" (some "str") with
        description := "多行\n\t\\u0041 \u0001", deprecated := true }]⟩,
    ⟨"OrderGetParam", .param, [{ Field.of "order" "Order" with removed := true }]⟩]
  responses := [⟨"OrderGetResponse", .response, []⟩]
  comments := ["", "# \x7bnot json"]

/-- A generator with one structure captured. -/
def archive : Generator := ⟨.default, .memory true [("1", .array [])]⟩

theorem CommandLine.decodeText_report_dumped :
    dumped.LengthsFit ∧
      ∃ lines, report archive Taobao.platform Python.target true (.ok dumped) = .ok lines ∧
        decodeText Method.record.decode (Outcome.printed lines).output = .ok dumped ∧
        (decodeText Method.record.decode (Outcome.printed lines).output).map
            (fun decoded => archive.renderOutcome Taobao.platform Python.target (.ok decoded)) =
          .ok (archive.renderOutcome Taobao.platform Python.target (.ok dumped)) := by
  have lengths : dumped.LengthsFit := by decide
  exact ⟨lengths, decodeText_report lengths archive Taobao.platform Python.target⟩

end ApiSchema
