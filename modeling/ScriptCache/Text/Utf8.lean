namespace ScriptCache.Text

def utf8 (s : String) : List UInt8 :=
  s.toByteArray.data.toList

def ofUtf8? (bytes : List UInt8) : Option String :=
  String.fromUTF8? ⟨bytes.toArray⟩

theorem ofUtf8?_utf8 (s : String) : ofUtf8? (utf8 s) = some s := by
  have valid : ByteArray.IsValidUTF8 ⟨s.toByteArray.data⟩ := s.isValidUTF8
  simp only [ofUtf8?, utf8, Array.toArray_toList, String.fromUTF8?, valid, ↓reduceDIte]
  rfl

theorem utf8_of_ofUtf8? {bytes : List UInt8} {s : String} (h : ofUtf8? bytes = some s) :
    utf8 s = bytes := by
  simp only [ofUtf8?, String.fromUTF8?] at h
  split at h
  · cases h
    rfl
  · cases h

theorem utf8_injective {s t : String} (h : utf8 s = utf8 t) : s = t :=
  Option.some.inj (by rw [← ofUtf8?_utf8 s, h, ofUtf8?_utf8])

end ScriptCache.Text
