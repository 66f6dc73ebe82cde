import Mathlib.Data.String.Basic

namespace Utf8Text

/-- The UTF-8 bytes of a text. -/
def encode (text : String) : List UInt8 := text.toByteArray.data.toList

/-- The text that strict UTF-8 bytes stand for. -/
def decode (bytes : List UInt8) : Option String := String.fromUTF8? ⟨⟨bytes⟩⟩

variable {text : String} {bytes : List UInt8}

theorem decode_encode (text : String) : decode (encode text) = some text := by
  have hbytes : (⟨⟨encode text⟩⟩ : ByteArray) = text.toByteArray := rfl
  unfold decode String.fromUTF8?
  rw [hbytes, dif_pos text.isValidUTF8]
  rfl

theorem encode_injective : Function.Injective encode := by
  intro text other h
  have hdecode := decode_encode text
  rw [h, decode_encode] at hdecode
  exact (Option.some.inj hdecode).symm

end Utf8Text
