import PropertyTyping.Text

/-! Capital forms, for names that are compared without regard to case. -/

namespace PropertyTyping.Text

/-- The letters beyond ASCII whose capital form is ASCII, with that form. -/
def foreignCapitals : List (Char × String) :=
  [('\u00DF', "SS"), ('\u0131', "I"), ('\u017F', "S"), ('\uFB00', "FF"), ('\uFB01', "FI"),
   ('\uFB02', "FL"), ('\uFB03', "FFI"), ('\uFB04', "FFL"), ('\uFB05', "ST"), ('\uFB06', "ST")]

/-- The capital form of one code point as far as it is ASCII; any other is left alone. -/
def asciiCapital : CodePoint → Text
  | .scalar c =>
    match foreignCapitals.find? (·.1 = c) with
    | some (_, capital) => ofString capital
    | none => [.scalar c.toUpper]
  | c => [c]

/-- A text whose points have capital forms; it equals an ASCII name exactly when the full capital
form does, because a point without an ASCII capital form keeps one that is not ASCII. -/
def asciiCapitals (t : Text) : Text := t.flatMap asciiCapital

end PropertyTyping.Text
