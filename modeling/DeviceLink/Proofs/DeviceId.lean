-- How many bytes an identifier takes in a frame.
import DeviceLink.DeviceId

namespace DeviceLink

namespace Text

theorem length_encodeChars (cs : List Char) : (encodeChars cs).length = sizeOf cs := by
  induction cs with
  | nil => rfl
  | cons c cs ih =>
    unfold encodeChars sizeOf at *
    rw [List.flatMap_cons, List.length_append, String.length_utf8EncodeChar, ih, List.foldr_cons]

theorem sizeOf_append (cs cs' : List Char) : sizeOf (cs ++ cs') = sizeOf cs + sizeOf cs' := by
  simp [← length_encodeChars, encodeChars]

theorem length_utf8 (s : String) : (utf8 s).length = sizeOf s.toList := length_encodeChars _

end Text

/-- An identifier is short, so every frame has room for it. -/
theorem DeviceId.length_utf8_text (d : DeviceId) : (Text.utf8 d.text).length ≤ limit := by
  rw [Text.length_utf8]
  exact d.fits.2

end DeviceLink
