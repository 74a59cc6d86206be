import SecretAccess.Text.Utf8

/-!
# Laws of UTF-8

Every text has one encoding, and only this is decoded to it.
-/

namespace SecretAccess.Text.Utf8

theorem toList_loop_eq (bytes : ByteArray) (i : Nat) (done : List UInt8) :
    ByteArray.toList.loop bytes i done = done.reverse ++ bytes.data.toList.drop i := by
  fun_induction ByteArray.toList.loop bytes i done with
  | case1 i done hi ih =>
    have hi' : i < bytes.data.toList.length := by simpa using hi
    have hb : bytes.get! i = bytes.data.toList[i] := by
      cases bytes
      exact getElem!_pos _ i hi
    rw [ih, List.reverse_cons, List.append_assoc, List.drop_eq_getElem_cons hi', hb]
    rfl
  | case2 i done hi =>
    have hi' : bytes.data.toList.length ≤ i := by simpa using hi
    simp [List.drop_eq_nil_of_le hi']

theorem toList_eq (bytes : ByteArray) : bytes.toList = bytes.data.toList := by
  simp [ByteArray.toList, toList_loop_eq]

theorem encode_append (s s' : String) : encode (s ++ s') = encode s ++ encode s' := by
  simp [encode, toList_eq]

theorem decode?_encode (s : String) : decode? (encode s) = some s := by
  rw [decode?, encode, toList_eq, Array.toArray_toList, String.fromUTF8?]
  exact dif_pos s.isValidUTF8

theorem eq_encode_of_decode? {bytes : List UInt8} {s : String} (h : decode? bytes = some s) :
    bytes = encode s := by
  unfold decode? String.fromUTF8? at h
  split at h
  case isTrue =>
    cases h
    rw [encode, toList_eq]
    rfl
  case isFalse => cases h

theorem decode?_eq_some_iff {bytes : List UInt8} {s : String} :
    decode? bytes = some s ↔ bytes = encode s :=
  ⟨eq_encode_of_decode?, fun h => h ▸ decode?_encode s⟩

theorem encode_eq_nil_iff {s : String} : encode s = [] ↔ s = "" := by
  have hempty : encode "" = [] := by simp [encode, toList_eq]
  constructor
  · intro h
    have hd : decode? (encode s) = decode? (encode "") := by rw [h, hempty]
    simpa [decode?_encode] using hd
  · rintro rfl
    exact hempty

end SecretAccess.Text.Utf8
