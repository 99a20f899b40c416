import SessionReplay.Proofs.Body.Base64
import SessionReplay.Proofs.Body.Dispatch
import SessionReplay.Proofs.Text.Blank
import SessionReplay.Proofs.Text.Utf8

/-!
# Bodies written in base64

Whatever stands between the white space of such a body is the written form of exactly one list of
bytes, or of none: these bytes are sent if they are those of a text.

* `Base64.encodeText` — the written form of bytes as a text; there is no white space in it;
* `Base64.writes_bytes_iff`: it is the only text that follows the rule;
* `Body.PostsBase64` — a request that posts a text in base64;
* `Body.ofBase64_eq_text_iff`, `Body.ofBase64_eq_binary_iff`, `Body.ofBase64_eq_fault_iff`: what
  such a text gives;
* **`Body.base64_body_exact`**: what becomes of such a request.
-/

namespace SessionReplay

open Capture (PostedBody Request)

/-! ## The written form as a text -/

namespace Base64

variable {bs : List UInt8} {s : String}

/-- The written form of bytes as a text. -/
def encodeText (bs : List UInt8) : String :=
  String.ofList ((encode bs).map fun b => Char.ofNat b.toNat)

/-- The characters of a written form are basic ones, and none of them is white space. -/
theorem char_of_mem_encode {b : UInt8} (h : b ∈ encode bs) :
    String.utf8EncodeChar (Char.ofNat b.toNat) = [b] ∧
      Text.isBlank (Char.ofNat b.toNat) = false := by
  have hall : ∀ b ∈ pad :: alphabet, String.utf8EncodeChar (Char.ofNat b.toNat) = [b] ∧
      Text.isBlank (Char.ofNat b.toNat) = false := by
    decide +kernel
  exact hall b (mem_of_mem_encode h)

theorem bytes_encodeText (bs : List UInt8) : Text.bytes (encodeText bs) = encode bs := by
  rw [Text.bytes_eq_flatMap, encodeText, String.toList_ofList, List.flatMap_map]
  calc (encode bs).flatMap (fun b => String.utf8EncodeChar (Char.ofNat b.toNat))
      = (encode bs).flatMap List.singleton :=
        List.flatMap_congr fun b hb => (char_of_mem_encode hb).1
    _ = encode bs := List.flatMap_singleton' _

/-- White space around a written form is no part of it. -/
theorem trim_encodeText (bs : List UInt8) : Text.trim (encodeText bs) = encodeText bs := by
  have hblank : ∀ c ∈ (encodeText bs).toList, Text.isBlank c = false := by
    rw [encodeText, String.toList_ofList, List.forall_mem_map]
    exact fun b hb => (char_of_mem_encode hb).2
  exact Text.trim_of_ends (fun c hc => hblank c (List.mem_of_head? hc))
    fun c hc => hblank c (List.mem_of_getLast? hc)

/-- **The written form is the only text that follows the rule.** -/
theorem writes_bytes_iff : Writes bs (Text.bytes s) ↔ s = encodeText bs := by
  rw [writes_iff, ← bytes_encodeText]
  exact ⟨fun h => Text.bytes_injective h, congrArg Text.bytes⟩

end Base64

/-! ## Requests -/

namespace Body

variable {request : Request} {post : PostedBody} {written t : String} {n : Nat}
  {reason : Omission}

/-- A request that posts a text in base64: it is no GET, its text is not empty, and its body is said
to be neither one of several parts nor a form whose fields were captured. -/
structure PostsBase64 (request : Request) (post : PostedBody) (written : String) : Prop where
  not_get : ¬Text.sameLetters request.method "GET"
  post_eq : request.post = some post
  encoding_eq : post.encoding = .base64
  text_eq : post.text = some written
  text_ne_empty : written ≠ ""
  not_multipart : ¬post.kind.startsWith multipartMime
  not_form : ¬(post.kind.startsWith formMime ∧ post.params ≠ [])

theorem PostsBase64.ofRequest_eq (h : PostsBase64 request post written) :
    ofRequest request = ofBase64 written := by
  have hform : ¬(post.kind.startsWith formMime ∧ !post.params.isEmpty) := by
    simpa using h.not_form
  have hempty : ¬written.isEmpty := by simpa using h.text_ne_empty
  rw [ofRequest, h.post_eq]
  dsimp only
  rw [if_neg h.not_get, ofPosted, ← PostedBody.kind, if_neg h.not_multipart, if_neg hform, ofText,
    h.text_eq, Option.getD_some, if_neg hempty, h.encoding_eq]

/-- What base64 writes is sent if it is a text. -/
theorem ofBase64_eq_text_iff : ofBase64 written = .text t ↔
    Base64.Writes (Text.bytes t) (Text.bytes (Text.trim written)) := by
  rw [Base64.writes_iff, ← Base64.decode_eq_ok_iff, ofBase64]
  split
  · next fault hfault => simp [hfault]
  · next bs hbs =>
    rw [hbs, Except.ok.injEq, eq_comm (a := bs), ← Text.ofBytes?_eq_some_iff]
    cases Text.ofBytes? bs <;> simp

/-- What base64 writes is noted with its size if it is no text. -/
theorem ofBase64_eq_binary_iff : ofBase64 written = .omitted (.binary n) ↔
    ∃ bs, bs.length = n ∧ (∀ t, Text.bytes t ≠ bs) ∧
      Base64.Writes bs (Text.bytes (Text.trim written)) := by
  simp only [Base64.writes_iff, ← Base64.decode_eq_ok_iff, ne_eq, ← Text.ofBytes?_eq_some_iff,
    ← Option.eq_none_iff_forall_ne_some]
  rw [ofBase64]
  split
  · next fault hfault => simp [hfault]
  · next bs hbs =>
    simp only [hbs, Except.ok.injEq]
    cases hread : Text.ofBytes? bs with
    | some content => simp [hread]
    | none => simp [hread]

/-- What base64 does not write is noted as such. -/
theorem ofBase64_eq_fault_iff : (∃ fault, ofBase64 written = .omitted (.base64 fault)) ↔
    ∀ bs, ¬Base64.Writes bs (Text.bytes (Text.trim written)) := by
  simp only [Base64.writes_iff, ← ne_eq]
  rw [← Base64.exists_decode_eq_error_iff, ofBase64]
  split
  · next fault hfault => simp [hfault]
  · next bs hbs =>
    rw [hbs]
    cases Text.ofBytes? bs <;> simp

/-- There is no other outcome, and a note tells the size or the fault. -/
theorem ofBase64_eq_omitted (h : ofBase64 written = .omitted reason) :
    (∃ n, reason = .binary n ∧ reason.message = "binary body of " ++ toString n ++ " bytes") ∨
      ∃ fault, reason = .base64 fault ∧
        reason.message = "invalid base64 body: " ++ fault.message := by
  rw [ofBase64] at h
  split at h
  · next fault _ =>
    cases h
    exact .inr ⟨fault, rfl, rfl⟩
  · next bs _ =>
    cases hread : Text.ofBytes? bs with
    | some content =>
      rw [hread] at h
      cases h
    | none =>
      rw [hread] at h
      cases h
      exact .inl ⟨bs.length, rfl, rfl⟩

/-- **A body in base64 is decoded exactly.** The text that is sent is the one whose bytes are
written; bytes of no text are noted with their number; and all that follows the rule for no bytes is
noted as such. So every text is sent that is written in base64, and two bodies that are sent as one
text do not differ but for the white space around them. -/
theorem base64_body_exact (h : PostsBase64 request post written) :
    (∀ t, ofRequest request = .text t ↔
      Base64.Writes (Text.bytes t) (Text.bytes (Text.trim written))) ∧
    (∀ n, ofRequest request = .omitted (.binary n) ↔
      ∃ bs, bs.length = n ∧ (∀ t, Text.bytes t ≠ bs) ∧
        Base64.Writes bs (Text.bytes (Text.trim written))) ∧
    ((∃ fault, ofRequest request = .omitted (.base64 fault)) ↔
      ∀ bs, ¬Base64.Writes bs (Text.bytes (Text.trim written))) ∧
    (∀ reason, ofRequest request = .omitted reason →
      (∃ n, reason = .binary n ∧ reason.message = "binary body of " ++ toString n ++ " bytes") ∨
        ∃ fault, reason = .base64 fault ∧
          reason.message = "invalid base64 body: " ++ fault.message) ∧
    ofRequest request ≠ .absent ∧ (∀ fields, ofRequest request ≠ .form fields) ∧
    (∀ bs s, Base64.Writes bs (Text.bytes s) ↔ s = Base64.encodeText bs) ∧
    (∀ t, written = Base64.encodeText (Text.bytes t) → ofRequest request = .text t) ∧
    (∀ request' post' written', PostsBase64 request' post' written' → ∀ t,
      ofRequest request = .text t → ofRequest request' = .text t →
        Text.trim written = Text.trim written') := by
  rw [h.ofRequest_eq]
  refine ⟨fun _ => ofBase64_eq_text_iff, fun _ => ofBase64_eq_binary_iff, ofBase64_eq_fault_iff,
    fun _ => ofBase64_eq_omitted, ofBase64_ne_absent written, fun _ => ofBase64_ne_form written,
    fun _ _ => Base64.writes_bytes_iff, fun t hwritten => ?_,
    fun request' post' written' h' t ht ht' => ?_⟩
  · rw [ofBase64_eq_text_iff, Base64.writes_bytes_iff, hwritten, Base64.trim_encodeText]
  · rw [ofBase64_eq_text_iff, Base64.writes_bytes_iff] at ht
    rw [h'.ofRequest_eq, ofBase64_eq_text_iff, Base64.writes_bytes_iff] at ht'
    rw [ht, ht']

/-- A text in base64 with white space around it. -/
def paddedBody : PostedBody :=
  ⟨"application/octet-stream", some " aGVsbG8K\n", .base64, []⟩

theorem base64_body_exact_paddedBody :
    PostsBase64 (postRequest paddedBody) paddedBody " aGVsbG8K\n" ∧
    Base64.Writes (Text.bytes "hello\n") (Text.bytes (Text.trim " aGVsbG8K\n")) ∧
    ofRequest (postRequest paddedBody) = .text "hello\n" := by
  have hposts : PostsBase64 (postRequest paddedBody) paddedBody " aGVsbG8K\n" :=
    ⟨by decide +kernel, rfl, rfl, rfl, by decide, by decide +kernel, by decide +kernel⟩
  have hwrites : Base64.Writes (Text.bytes "hello\n") (Text.bytes (Text.trim " aGVsbG8K\n")) :=
    Base64.writes_iff.mpr (by decide +kernel)
  exact ⟨hposts, hwrites, ((base64_body_exact hposts).1 _).mpr hwrites⟩

end Body

end SessionReplay
