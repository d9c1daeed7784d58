import RedisKeeper.Text.Basic
import RedisKeeper.Text.Utf8

/-
The query at the end of an address: pairs of a key and a value.

Pairs stand between ampersands.  In keys and values a plus sign is a space, and a
percent sign with two hexadecimal digits is a byte.
-/
namespace RedisKeeper
namespace Text

/-- The bytes that a key or a value stands for. -/
def queryBytes : List Char → List UInt8
  | '%' :: high :: low :: rest =>
    match hexDigit? high, hexDigit? low with
    | some a, some b => (a * 16 + b).toUInt8 :: queryBytes rest
    | _, _ => '%'.toUInt8 :: queryBytes (high :: low :: rest)
  | '+' :: rest => ' '.toUInt8 :: queryBytes rest
  | c :: rest => (String.singleton c).toUTF8.toList ++ queryBytes rest
  | [] => []

/-- A key or a value of a query. -/
def queryWord (s : List Char) : String := decodeUtf8 (queryBytes s)

/-- The pairs of a query in order.  What has no equals sign is a key with the empty
value. -/
def queryPairs (query : List Char) : List (String × String) :=
  ((cut '&' query).filter fun pair => !pair.isEmpty).map fun pair =>
    let key := pair.takeWhile (· ≠ '=')
    (queryWord key, queryWord (pair.drop (key.length + 1)))

end Text
end RedisKeeper
