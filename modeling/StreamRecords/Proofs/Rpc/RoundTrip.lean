import StreamRecords.Proofs.Item
import StreamRecords.Proofs.Json.Accepted
import StreamRecords.Proofs.Rpc.Wire

/-!
Messages there and back. A request comes back from its body unless a parameter is nested too deep
for the envelope around it, which no request that is read from a body is; an answer comes back with
the times of its items cut to the second, and with null for nothing.
-/

namespace StreamRecords.Rpc

open Json

/-! ### Requests -/

/-- **The parameters of a request that is read from `body`** are documents that leave room for the
two levels of the envelope. -/
theorem Request.fits_of_decode {body : Bytes} {r : Request} (h : Request.decode body = .ok r) :
    ∀ v ∈ r.params, v.Fits 125 := by
  obtain ⟨id, method, params, hparse, -, -, hparams⟩ := Request.exists_of_decode h
  obtain ⟨-, -, -, hfit, -⟩ := Format.fits_of_parse hparse
  intro v hv
  rw [hparams] at hv
  rcases hfit with habsent | hfits
  · cases habsent
    exact absurd hv List.not_mem_nil
  · cases params with
    | none => exact absurd hv List.not_mem_nil
    | some items => exact (hfits items rfl).2 v hv

/-- **Requests come back from the wire** if no parameter is nested deeper than 125 levels, and if
one is deeper this is what is reported. What is read from a `body`, of whatever form, always comes
back. -/
theorem requests_come_back :
    (∀ r : Request, (∀ v ∈ r.params, v.HasOnlyInts ∧ v.IsDocument) →
      Request.decode r.encode =
        if ∀ v ∈ r.params, v.depth ≤ 125 then .ok r
        else .error (.deserialization Fault.tooDeep.message)) ∧
    ∀ (body : Bytes) (r : Request), Request.decode body = .ok r →
      (∀ v ∈ r.params, v.HasOnlyInts) → Request.decode r.encode = .ok r := by
  constructor
  · intro r h
    rw [Request.decode_encode (fun v hv => (h v hv).1) fun v hv => (h v hv).2]
    simp only [depthItems_le_iff]
  · intro body r hbody hints
    -- the depth that is read leaves 125 levels to a parameter, as the envelope takes the other two
    have hfits := Request.fits_of_decode hbody
    have hdepth : Value.depthItems r.params ≤ 125 :=
      depthItems_le_iff.2 fun v hv => (hfits v hv).2
    rw [Request.decode_encode hints fun v hv => (hfits v hv).1, if_pos hdepth]

theorem requests_come_back_quoted_and_listed :
    let q : Request :=
      ⟨⟨"\"é"⟩, .listItems, [.string "\n", .list [.object [("\\", .bool true)]]]⟩
    let listed : Value :=
      .list [.list [], .string "publish", .list [.object [("b", .list []), ("a", .null)]]]
    let r : Request := ⟨⟨"[]"⟩, .publish, [.object [("a", .null), ("b", .list [])]]⟩
    ((∀ v ∈ q.params, v.HasOnlyInts ∧ v.IsDocument) ∧ Request.decode q.encode = .ok q) ∧
      Request.decode listed.bytes = .ok r ∧
      (∀ v ∈ r.params, v.HasOnlyInts) ∧ Request.decode r.encode = .ok r := by
  intro q listed r
  constructor
  · have h : ∀ v ∈ q.params, v.HasOnlyInts ∧ v.IsDocument := by
      simp [q, Value.HasOnlyInts, Value.ItemsHaveOnlyInts, Value.MembersHaveOnlyInts,
        Value.IsDocument, Value.ItemsAreDocuments, Value.MembersAreDocuments, Dict.IsSorted]
    have hdepth : ∀ v ∈ q.params, v.depth ≤ 125 := by decide
    exact ⟨h, (requests_come_back.1 q h).trans (if_pos hdepth)⟩
  · have hlisted : listed.HasOnlyInts := by
      simp [listed, Value.HasOnlyInts, Value.ItemsHaveOnlyInts, Value.MembersHaveOnlyInts]
    have hbody : Request.decode listed.bytes = .ok r := by
      rw [Request.decode, Format.parse_bytes _ hlisted]
      rfl
    have h : ∀ v ∈ r.params, v.HasOnlyInts := by
      simp [r, Value.HasOnlyInts, Value.ItemsHaveOnlyInts, Value.MembersHaveOnlyInts]
    exact ⟨hbody, h, requests_come_back.2 _ r hbody h⟩

/-! ### Answers -/

theorem floored_eq_self {i : Item} (h : ∀ t ∈ i.time, t.nanos = 0) : i.floored = i := by
  obtain ⟨txid, key, time, data⟩ := i
  cases time with
  | none => rfl
  | some t =>
    obtain ⟨seconds, nanos, legal, inSecond⟩ := t
    have hnanos : nanos = 0 := h _ rfl
    subst hnanos
    rfl

theorem map_floored_eq_self {items : List Item} (h : ∀ i ∈ items, ∀ t ∈ i.time, t.nanos = 0) :
    items.map Item.floored = items := by
  conv => rhs; rw [← List.map_id items]
  exact List.map_congr_left fun i hi => floored_eq_self (h i hi)

theorem Response.decode_encode_items (r : Response (List Item)) :
    ∃ body, r.encode (.list itemFormat) = .ok body ∧
      Response.decode (.list itemFormat) body =
        .ok { r with result := r.result.map (List.map Item.floored) } := by
  obtain ⟨id, error, result⟩ := r
  -- an absent result is written as null, and null is read as absent
  cases result with
  | none =>
    obtain ⟨body, hbody, hdecode⟩ := Response.decode_encode (r := ⟨id, error, none⟩)
      (v := .null) (show (Format.list itemFormat).option.toValue none = .ok .null from rfl)
      isCarried_null
    exact ⟨body, hbody, hdecode _⟩
  | some items =>
    obtain ⟨hints, hdepth⟩ := writtenItems_spec items
    have hwritten : (Format.list itemFormat).option.toValue (some items) =
        .ok (writtenItems items) := toValue_items items
    obtain ⟨body, hbody, hdecode⟩ := Response.decode_encode (r := ⟨id, error, some items⟩)
      hwritten ⟨hints, by omega⟩
    refine ⟨body, hbody, (hdecode _).trans ?_⟩
    rw [toDocument_writtenItems]
    show Except.map _ (Except.map some (((Format.list itemFormat).ofValue
      (Answer.listed items).document).mapError _)) = _
    rw [ofValue_listed]
    rfl

/-- **Answers come back from the wire.** Items come back `floored`, their times cut to the second,
and all else of an answer as it was. An answer with a document comes back as it was, but for null,
which stands for nothing. -/
theorem responses_come_back :
    (∀ r : Response (List Item), ∃ body, r.encode (.list itemFormat) = .ok body ∧
      Response.decode (.list itemFormat) body =
        .ok { r with result := r.result.map (List.map Item.floored) } ∧
      ((∀ items ∈ r.result, ∀ i ∈ items, ∀ t ∈ i.time, t.nanos = 0) →
        Response.decode (.list itemFormat) body = .ok r)) ∧
    ∀ r : Response Value,
      (∀ v ∈ r.result, v.HasOnlyInts ∧ v.IsDocument ∧ v.depth ≤ 126) →
      ∃ body, r.encode .value = .ok body ∧
        Response.decode .value body =
          .ok { r with result := r.result.filter fun v => !v.isNull } := by
  constructor
  · intro r
    obtain ⟨body, hbody, hdecode⟩ := Response.decode_encode_items r
    refine ⟨body, hbody, hdecode, fun h => ?_⟩
    have hresult : r.result.map (List.map Item.floored) = r.result := by
      cases hr : r.result with
      | none => rfl
      | some items => exact congrArg some (map_floored_eq_self (h items hr))
    rw [hdecode, hresult]
  · intro r h
    obtain ⟨body, hbody, hdecode⟩ := Response.decode_encode_document
      (fun v hv => ⟨(h v hv).1, (h v hv).2.2⟩) fun v hv => (h v hv).2.1
    refine ⟨body, hbody, (hdecode .value).trans ?_⟩
    rw [bind_present]
    cases r.result.filter fun v => !v.isNull <;> rfl

theorem responses_come_back_before_1970 :
    let error : ErrorInfo := ⟨-708, "é"⟩
    let half : Item := ⟨"t", "k\n", some ⟨-1, 500000000, by decide, .inl (by decide)⟩, ⟨[0xAB]⟩⟩
    let whole : Item := ⟨"t", "k\n", some ⟨-1, 0, by decide, .inl (by decide)⟩, ⟨[0xAB]⟩⟩
    let v : Value := .object [("a", .list [.null])]
    (∃ body, Response.encode (.list itemFormat) ⟨"7", some error, some [half]⟩ = .ok body ∧
      Response.decode (.list itemFormat) body = .ok ⟨"7", some error, some [whole]⟩) ∧
    ((∀ i ∈ [whole], ∀ t ∈ i.time, t.nanos = 0) ∧
      ∃ body, Response.encode (.list itemFormat) ⟨"", none, some [whole]⟩ = .ok body ∧
        Response.decode (.list itemFormat) body = .ok ⟨"", none, some [whole]⟩) ∧
    (v.HasOnlyInts ∧ v.IsDocument ∧ v.depth ≤ 126) ∧
      ∃ body, Response.encode .value ⟨"", none, some v⟩ = .ok body ∧
        Response.decode .value body = .ok ⟨"", none, some v⟩ := by
  intro error half whole v
  refine ⟨?_, ?_, ?_⟩
  · obtain ⟨body, hbody, hdecode, -⟩ := responses_come_back.1 ⟨"7", some error, some [half]⟩
    exact ⟨body, hbody, hdecode⟩
  · have h : ∀ i ∈ [whole], ∀ t ∈ i.time, t.nanos = 0 := by simp [whole]
    obtain ⟨body, hbody, -, hdecode⟩ := responses_come_back.1 ⟨"", none, some [whole]⟩
    exact ⟨h, body, hbody, hdecode (by rintro items ⟨⟩; exact h)⟩
  · have h : v.HasOnlyInts ∧ v.IsDocument ∧ v.depth ≤ 126 := by
      refine ⟨?_, ?_, by decide⟩
      · simp [v, Value.HasOnlyInts, Value.ItemsHaveOnlyInts, Value.MembersHaveOnlyInts]
      · simp [v, Value.IsDocument, Value.ItemsAreDocuments, Value.MembersAreDocuments,
          Dict.IsSorted]
    obtain ⟨body, hbody, hdecode⟩ := responses_come_back.2 ⟨"", none, some v⟩
      (by rintro w ⟨⟩; exact h)
    exact ⟨h, body, hbody, hdecode⟩

end StreamRecords.Rpc
