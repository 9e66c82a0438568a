/-! Line ends. A text file may end its lines in any of three ways, and all read alike. -/

namespace PropertyTyping

/-- Each carriage return, with the line feed that follows it if there is one, becomes a line feed. -/
def unifyNewlines : List Char → List Char
  | '\r' :: '\n' :: rest => '\n' :: unifyNewlines rest
  | '\r' :: rest => '\n' :: unifyNewlines rest
  | c :: rest => c :: unifyNewlines rest
  | [] => []

end PropertyTyping
