import ConfigKeeper.Text.Printable

namespace ConfigKeeper.Text

def shownChar (c : Char) : List Char :=
  if c == '"' then ['\\', '"']
  else if c == '\\' then ['\\', '\\']
  else if c == '\n' then ['\\', 'n']
  else if c == '\r' then ['\\', 'r']
  else if c == '\t' then ['\\', 't']
  else if c == '\x00' then ['\\', '0']
  else if isPrintable c && !isAttaching c then [c]
  else "\\u\x7b".toList ++ Nat.toDigits 16 c.toNat ++ ['}']

def shown (s : String) : String := String.ofList ('"' :: s.toList.flatMap shownChar ++ ['"'])

def shownList (list : List String) : String := "[" ++ ", ".intercalate (list.map shown) ++ "]"

end ConfigKeeper.Text
