import StreamRecords.Proofs.Json.LayoutRecord
import StreamRecords.Proofs.Rpc.Wire

/-!
Envelopes in all their layouts. A request or an answer is told by the members it knows, whatever
their order, the white space between the tokens and the members that it does not know.
-/

namespace StreamRecords

namespace Json

def StringText.ofPlain (s : String) (h : ∀ b ∈ Utf8.encode s.toList, IsPlain b) : StringText :=
  ⟨Utf8.encode s.toList, isStringText_of_isPlain h⟩

/-- The string `k` stands for something else than any of `names`. -/
def StringText.IsBeside (names : List String) (k : StringText) : Prop :=
  ∃ cs, Denotes k.chars cs ∧ String.ofList cs ∉ names

theorem Fields.isForeign_of_isBeside {α σ : Type} {fields : Fields α σ} {m : StringText × Tree}
    (h : m.1.IsBeside fields.names) : fields.IsForeign m := by
  obtain ⟨cs, hdenotes, hname⟩ := h
  refine ⟨.ofList cs, ?_, hname⟩
  rw [StringText.value?, stringTail_of_denotes hdenotes []]
  rfl

end Json

namespace Rpc

open Json

theorem Request.takeLayouts_envelopeFields : envelopeFields.TakeLayouts :=
  ⟨takesLayouts_value.option, takesLayouts_string _, takesLayouts_value.list.option, trivial⟩

theorem Response.takeLayouts_envelopeFields : envelopeFields.TakeLayouts :=
  ⟨takesLayouts_value.option, takesLayouts_value.option, takesLayouts_value.option, trivial⟩

/-- **Envelopes are read whatever their layout.** A `body` that is read as a request gives the same
request when its `members` come in any order, with `added` ones of other names anywhere among them
that hold any values, and with white space between any two tokens; and so does an answer of any
format. -/
theorem decode_ignores_layout {members added shuffled : List (StringText × Tree)}
    {body body' : Bytes} (hshuffled : shuffled.Perm (members ++ added))
    (hbody : Laid (Tree.object members).tokens body)
    (hbody' : Laid (Tree.object shuffled).tokens body') :
    ((∀ m ∈ added, m.1.IsBeside ["id", "method", "params"]) →
      ∀ r, Request.decode body = .ok r → Request.decode body' = .ok r) ∧
    ((∀ m ∈ added, m.1.IsBeside ["id", "error", "result"]) →
      ∀ {α : Type} (format : Format α) (r : Response α),
        Response.decode format body = .ok r → Response.decode format body' = .ok r) := by
  constructor
  · intro hadded r
    exact bind_mapError_eq_ok_of_toOption <|
      parse_shuffled Request.takeLayouts_envelopeFields "IncomingRequest"
        (fun m hm => Fields.isForeign_of_isBeside (hadded m hm)) hshuffled hbody hbody'
  · intro hadded α format r
    exact bind_mapError_eq_ok_of_toOption <|
      parse_shuffled Response.takeLayouts_envelopeFields "IncomingResponse"
        (fun m hm => Fields.isForeign_of_isBeside (hadded m hm)) hshuffled hbody hbody'

theorem decode_ignores_layout_reversed :
    let body := Utf8.encode
      "\x7b\"id\":\"id\",\"method\":\"publish\",\"result\":\"other\"\x7d".toList
    let body' := Utf8.encode (" \x7b \"other\" : [ [ -1E999 ] ] , \"result\" : \"other\" , " ++
      "\"method\" : \"publish\" , \"id\" : \"id\" \x7d ").toList
    Request.decode body = .ok ⟨⟨"id"⟩, .publish, []⟩ ∧
      Request.decode body' = .ok ⟨⟨"id"⟩, .publish, []⟩ ∧
      Response.decode .text body = .ok ⟨"id", none, some "other"⟩ ∧
      Response.decode .text body' = .ok ⟨"id", none, some "other"⟩ := by
  intro body body'
  let id : StringText := .ofPlain "id" (by decide +kernel)
  let method : StringText := .ofPlain "method" (by decide +kernel)
  let result : StringText := .ofPlain "result" (by decide +kernel)
  let publish : StringText := .ofPlain "publish" (by decide +kernel)
  let other : StringText := .ofPlain "other" (by decide +kernel)
  -- a number beyond all floating-point numbers may stand in a member that is passed over
  let huge : NumberText :=
    ⟨true, [0x31], none, some ([0x45], [0x39, 0x39, 0x39]), by simp [IsDigits, isDigit],
      by simp, by simp, by simp [IsDigits, isDigit, exponentMarks]⟩
  let members := [(id, Tree.string id), (method, .string publish), (result, .string other)]
  let added := [(other, Tree.list [.list [.number huge]])]
  have hbody : Laid (Tree.object members).tokens body := by
    have h : (Tree.object members).tokens.flatten = body := by decide +kernel
    exact h ▸ laid_flatten _
  have hbody' : Laid (Tree.object (members ++ added).reverse).tokens body' := by
    have h : (Tree.object (members ++ added).reverse).tokens.flatMap ([0x20] ++ ·) ++ [0x20] =
        body' := by decide +kernel
    exact h ▸ laid_flatMap (by simp [IsBlank]) _
  have hbeside (names : List String) (h : "other" ∉ names) : ∀ m ∈ added, m.1.IsBeside names := by
    intro m hm
    obtain rfl := List.mem_singleton.1 hm
    exact ⟨"other".toList, denotes_encode (by decide +kernel), by simpa using h⟩
  obtain ⟨hrequest, hresponse⟩ :=
    decode_ignores_layout (List.reverse_perm (members ++ added)) hbody hbody'
  let v : Value := .object
    [("id", .string "id"), ("method", .string "publish"), ("result", .string "other")]
  have hbytes : body = v.bytes := by decide +kernel
  have hints : v.HasOnlyInts := ⟨trivial, trivial, trivial, trivial⟩
  have hread : Request.decode body = .ok ⟨⟨"id"⟩, .publish, []⟩ := by
    rw [hbytes, Request.decode, Format.parse_bytes _ hints]
    rfl
  have hanswer : Response.decode .text body = .ok ⟨"id", none, some "other"⟩ := by
    rw [hbytes, Response.decode, Format.parse_bytes _ hints]
    rfl
  exact ⟨hread, hrequest (hbeside _ (by decide)) _ hread, hanswer,
    hresponse (hbeside _ (by decide)) .text _ hanswer⟩

end Rpc
end StreamRecords
