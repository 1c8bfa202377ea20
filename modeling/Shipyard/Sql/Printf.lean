import Shipyard.Sql.Value
import Shipyard.Text.Utf8
/-!
# Formatted text

`printf(format, ...)` writes its format with each conversion replaced by the text of the next
argument. The format is read as bytes. A `%` starts a conversion, which has, in this order:

* flags: `-` (left justify), `+` or a blank (the sign of a positive number), `#` (the alternate
  form), `!` (widths and precisions of text in characters, and more digits for reals), `0`
  (zero padding) and `,` (thousands separators);
* a width: digits, or `*` for the next argument (a negative one left justifies);
* a precision: `.` and digits, or `.*` for the next argument;
* the size letters `l` or `ll`, which change nothing;
* a conversion character: `d`, `i`, `u`, `r` (an ordinal such as `2nd`), `o`, `x`, `X` and `p`
  for integers; `f`, `e`, `E`, `g` and `G` for reals; `s`, `z` and `c` for text; `q`, `Q` and
  `w` for text quoted for SQL; `%` for itself and `n` for nothing.

Any other character, or the end of the format inside a conversion, ends the output there. A
missing argument reads as null. Output that reaches the length limit makes the result null.

The format is first read into pieces, runs of literal bytes and conversions, and the pieces
are then written against the arguments, each conversion taking what it needs of them.
-/
namespace Shipyard.Sql

namespace Printf

open Shipyard.Crypto

/-- The byte of an ASCII character. -/
def ascii (c : Char) : UInt8 := c.toNat.toUInt8

/-- Whether a byte is a decimal digit. -/
def isDigit (b : UInt8) : Bool := 48 ≤ b && b ≤ 57

/-- Whether a byte continues a character of UTF-8 text. -/
def continues (b : UInt8) : Bool := b &&& 0xc0 == 0x80

/-- What a conversion writes. -/
inductive Conversion where
  /-- `d` and `i` (signed) and `u` (the argument's 64 bits read unsigned), in decimal. -/
  | decimal (signed : Bool)
  /-- `r`: a signed decimal followed by its ordinal suffix. -/
  | ordinal
  /-- `o`, `x`, `X` and `p`: the argument's 64 bits unsigned in base 8 or 16, the digits in
  upper case or not, and the prefix of the alternate form. -/
  | radix (base : Nat) (upper : Bool) (lead : List Char)
  /-- `f`, `e`, `E`, `g` and `G`. -/
  | real (style : Char)
  /-- `s` and `z`. -/
  | string
  /-- `c`: the first character of the text, written precision times. -/
  | character
  /-- `q`, `Q` and `w`: text with its quote character doubled, `Q` enclosing it in quotes. -/
  | escaped (quote : UInt8) (enclose : Bool)
  /-- `%`. -/
  | percent
  /-- `n`: nothing. -/
  | nothing
  /-- Any other character, or the end of the format: the output ends. -/
  | stop
  deriving Inhabited

/-- The conversion a character names. -/
def Conversion.ofByte (b : UInt8) : Conversion :=
  match Char.ofNat b.toNat with
  | 'd' | 'i' => .decimal true
  | 'u' => .decimal false
  | 'r' => .ordinal
  | 'o' => .radix 8 false ['0']
  | 'x' => .radix 16 false ['0', 'x']
  | 'X' => .radix 16 true ['0', 'X']
  | 'p' => .radix 16 true ['0', 'x']
  | 'f' => .real 'f'
  | 'e' => .real 'e'
  | 'E' => .real 'E'
  | 'g' => .real 'g'
  | 'G' => .real 'G'
  | 's' | 'z' => .string
  | 'c' => .character
  | 'q' => .escaped (ascii '\'') false
  | 'Q' => .escaped (ascii '\'') true
  | 'w' => .escaped (ascii '"') false
  | '%' => .percent
  | 'n' => .nothing
  | _ => .stop

/-- A conversion as the format writes it: its flags and the sizes it gives, whether the width
and the precision are taken from the arguments, and what it writes. -/
structure Directive where
  spec : FormatSpec := {}
  widthFromArgument : Bool := false
  precisionFromArgument : Bool := false
  conversion : Conversion := .stop
  deriving Inhabited

/-- A piece of a format: literal bytes, or a conversion. -/
inductive Piece where
  | literal (bytes : Bytes)
  | directive (d : Directive)
  deriving Inhabited

/-- A width or precision written in digits, read as the engine reads it: in 32-bit unsigned
arithmetic, then kept to 31 bits. -/
def amountOf (ds : Bytes) : Nat :=
  (ds.foldl (fun n b => (n * 10 + (b.toNat - 48)) % 4294967296) 0) % 2147483648

/-- A directive ended by the byte that starts a list: that byte names its conversion, and the
format goes on after it. -/
def conclude (d : Directive) : Bytes → Directive × Bytes
  | c :: after => ({ d with conversion := .ofByte c }, after)
  | [] => ({ d with conversion := .stop }, [])

/-- Whether the reading of a conversion goes on after a width: a point or `l` follows. -/
def goesOn (cs : Bytes) : Bool :=
  match cs with
  | c :: _ => c == ascii '.' || c == ascii 'l'
  | [] => false

/-- Reads a conversion from the byte after its `%`: the directive and the format after its
conversion character. -/
def readDirective : Nat → Directive → Bytes → Directive × Bytes
  | 0, d, cs => conclude d cs
  | _ + 1, d, [] => conclude d []
  | fuel + 1, d, c :: rest =>
    let s := d.spec
    if c == ascii '-' then readDirective fuel { d with spec := { s with leftJustify := true } } rest
    else if c == ascii '+' then readDirective fuel { d with spec := { s with sign := some '+' } } rest
    else if c == ascii ' ' then readDirective fuel { d with spec := { s with sign := some ' ' } } rest
    else if c == ascii '#' then readDirective fuel { d with spec := { s with alternate := true } } rest
    else if c == ascii '!' then readDirective fuel { d with spec := { s with altForm := true } } rest
    else if c == ascii '0' then readDirective fuel { d with spec := { s with zeroPad := true } } rest
    else if c == ascii ',' then readDirective fuel { d with spec := { s with thousands := true } } rest
    else if c == ascii 'l' then
      conclude d (if rest.head? == some (ascii 'l') then rest.drop 1 else rest)
    else if isDigit c then
      let ds := (c :: rest).takeWhile isDigit
      let after := (c :: rest).drop ds.length
      let d := { d with spec := { s with width := amountOf ds } }
      if goesOn after then readDirective fuel d after else conclude d after
    else if c == ascii '*' then
      let d := { d with widthFromArgument := true }
      if goesOn rest then readDirective fuel d rest else conclude d rest
    else if c == ascii '.' then
      if rest.head? == some (ascii '*') then
        let d := { d with precisionFromArgument := true }
        let after := rest.drop 1
        if after.head? == some (ascii 'l') then readDirective fuel d after else conclude d after
      else
        let ds := rest.takeWhile isDigit
        let after := rest.drop ds.length
        let d := { d with spec := { s with precision := some (amountOf ds) } }
        if after.head? == some (ascii 'l') then readDirective fuel d after else conclude d after
    else conclude d (c :: rest)

/-- The pieces of a format; a `%` that ends it is literal. -/
def pieces : Nat → Bytes → List Piece
  | 0, _ => []
  | _ + 1, [] => []
  | fuel + 1, c :: rest =>
    if c == ascii '%' then
      if rest.isEmpty then [.literal [c]]
      else
        let (d, after) := readDirective (rest.length + 1) {} rest
        .directive d :: pieces fuel after
    else
      let run := (c :: rest).takeWhile (· != ascii '%')
      .literal run :: pieces fuel ((c :: rest).drop run.length)

/-! ## Arguments -/

/-- The next argument and those after it; null when none is left. -/
def nextArgument : List Value → Value × List Value
  | v :: rest => (v, rest)
  | [] => (.null, [])

/-- An integer cut to 32 bits, as a width or precision argument is. -/
def toInt32 (i : Int) : Int :=
  let m := i % 4294967296
  if m ≥ 2147483648 then m - 4294967296 else m

/-- The bytes of a value's text, up to its first zero byte; none for null. -/
def textBytes? : Value → Option Bytes
  | .null => none
  | .blob b => some (b.takeWhile (· != 0))
  | v => some (v.textBytes.takeWhile (· != 0))

/-- The flags and sizes of a directive with the width and precision it takes from the
arguments, and the arguments left. A negative width left justifies; a negative precision
counts as its size. -/
def settle (d : Directive) (args : List Value) : FormatSpec × List Value :=
  let s := d.spec
  let (s, args) :=
    if d.widthFromArgument then
      let (v, args) := nextArgument args
      let w := toInt32 v.toInt
      if w < 0 then ({ s with leftJustify := true, width := if w ≥ -2147483647 then w.natAbs else 0 },
        args)
      else ({ s with width := w.toNat }, args)
    else (s, args)
  if d.precisionFromArgument then
    let (v, args) := nextArgument args
    let p := toInt32 v.toInt
    if p < 0 then ({ s with precision := if p ≥ -2147483647 then some p.natAbs else none }, args)
    else ({ s with precision := some p.toNat }, args)
  else (s, args)

/-! ## Conversions -/

/-- The suffix of an ordinal: `st`, `nd` and `rd` after 1, 2 and 3 outside the teens, else
`th`. -/
def ordinalSuffix (n : Nat) : List Char :=
  if (n / 10) % 10 == 1 then ['t', 'h']
  else match n % 10 with
    | 1 => ['s', 't']
    | 2 => ['n', 'd']
    | 3 => ['r', 'd']
    | _ => ['t', 'h']

/-- Digits with a comma between each group of three, counted from the right. -/
def groupThousands (ds : List Char) : List Char :=
  let rec go : Nat → List Char → List Char
    | 0, _ => []
    | _ + 1, [] => []
    | fuel + 1, cs =>
      let group := cs.take 3
      let rest := cs.drop 3
      if rest.isEmpty then group else group ++ [','] ++ go fuel rest
  (go (ds.length + 1) ds.reverse).reverse

/-- The text of an integer conversion: the digits, zeros before them up to the precision (up to
the width, the sign apart, with zero padding), thousands separators, the sign and the prefix of
the alternate form. None when the text would pass the length limit. -/
def integerText (spec : FormatSpec) (conv : Conversion) (v : Int) : Option (List Char) :=
  let (signed, ordinal, base, upper, lead) : Bool × Bool × Nat × Bool × List Char :=
    match conv with
    | .decimal signed => (signed, false, 10, false, [])
    | .ordinal => (true, true, 10, false, [])
    | .radix base upper lead => (false, false, base, upper, lead)
    | _ => (true, false, 10, false, [])
  let (magnitude, sign) : Nat × Option Char :=
    if signed then (if v < 0 then (v.natAbs, some '-') else (v.toNat, spec.sign))
    else ((v % 18446744073709551616).toNat, none)
  let alternate := spec.alternate && magnitude != 0
  let thousands := spec.thousands && base == 10 && !ordinal
  let signWidth : Int := if sign.isSome then 1 else 0
  let precision : Int := match spec.precision with
    | some p => p
    | none => -1
  let precision : Int :=
    if spec.zeroPad && precision < spec.width - signWidth then spec.width - signWidth
    else precision
  if precision ≥ 37 && precision + 10 + (if thousands then precision / 3 else 0) > outputLimit
  then none else
  let digits := (Nat.toDigits base magnitude).map fun c => if upper then c.toUpper else c
  let digits := if ordinal then digits ++ ordinalSuffix magnitude else digits
  let digits := List.replicate (precision.toNat - digits.length) '0' ++ digits
  let digits := if thousands then groupThousands digits else digits
  some ((if alternate then lead else []) ++ sign.toList ++ digits)

/-- Text cut to a number of characters, a first byte taking the continuation bytes after it. -/
def takeChars : Nat → Bytes → Bytes
  | 0, _ => []
  | _ + 1, [] => []
  | n + 1, b :: rest =>
    if b ≥ 0xc0 then
      let more := rest.takeWhile continues
      b :: more ++ takeChars n (rest.drop more.length)
    else b :: takeChars n rest

/-- Text cut to a precision: in characters with `!`, else in bytes. -/
def cut (spec : FormatSpec) (bs : Bytes) : Bytes :=
  match spec.precision with
  | none => bs
  | some p => if spec.altForm then takeChars p bs else bs.take p

/-- The width of a text conversion in bytes: with `!` the width counts characters, so each
continuation byte of the text widens it. -/
def widthFor (spec : FormatSpec) (bs : Bytes) : Int :=
  if spec.altForm && spec.width > 0 then spec.width + (bs.filter continues).length
  else spec.width

/-- The first character of a text for `c`: a zero byte for null or empty text. -/
def firstChar : Option Bytes → Bytes
  | some (b :: rest) => if b &&& 0xc0 == 0xc0 then b :: (rest.takeWhile continues).take 3 else [b]
  | _ => [0]

/-- Text with a quote character doubled, in quotes if asked. -/
def escape (q : UInt8) (enclose : Bool) (bs : Bytes) : Bytes :=
  let body := bs.flatMap fun b => if b == q then [b, b] else [b]
  if enclose then q :: body ++ [q] else body

/-- The bytes of ASCII characters. -/
def asciiBytes (cs : List Char) : Bytes := cs.map ascii

/-! ## Writing -/

/-- Output with bytes added; none when it would reach the length limit. -/
def emit (out : Array UInt8) (bs : Bytes) : Option (Array UInt8) :=
  if out.size + bs.length ≥ outputLimit then none else some (out ++ bs.toArray)

/-- Output with the text of a conversion added, padded with blanks to the width, on the left
unless left justified. -/
def place (out : Array UInt8) (body : Bytes) (width : Int) (leftJustify : Bool) :
    Option (Array UInt8) :=
  let pad := (width - body.length).toNat
  if out.size + pad + body.length ≥ outputLimit then none else
  let blanks := List.replicate pad (ascii ' ')
  some (out ++ (if leftJustify then body ++ blanks else blanks ++ body).toArray)

/-- Output with the text of `c` added: the character written precision times, the blanks of
the width before all the copies or after the last. -/
def placeChar (out : Array UInt8) (spec : FormatSpec) (ch : Bytes) : Option (Array UInt8) :=
  let times := (spec.precision.getD 0)
  if times > 1 then
    let width : Int := spec.width - (times - 1)
    let (out, width) : Option (Array UInt8) × Int :=
      if width > 1 && !spec.leftJustify then (emit out (List.replicate (width - 1).toNat (ascii ' ')), 0)
      else (some out, width)
    match out with
    | none => none
    | some out =>
      if out.size + ch.length * (times - 1) ≥ outputLimit then none else
      let copies := (List.replicate (times - 1) ch).flatten
      let width := if width > 0 then width + (ch.filter continues).length else width
      place (out ++ copies.toArray) ch width spec.leftJustify
  else
    let width := if spec.width > 0 then spec.width + (ch.filter continues).length else spec.width
    place out ch width spec.leftJustify

/-- Writes the pieces of a format against the arguments: the output so far, ended by a
conversion that stops it, or none when it reaches the length limit. -/
def write : List Piece → List Value → Array UInt8 → Option (Array UInt8)
  | [], _, out => some out
  | .literal bs :: ps, args, out => (emit out bs).bind (write ps args)
  | .directive d :: ps, args, out =>
    let (spec, args) := settle d args
    match d.conversion with
    | .stop => some out
    | .nothing => write ps args out
    | .percent => (place out [ascii '%'] spec.width spec.leftJustify).bind (write ps args)
    | .real style =>
      let (v, args) := nextArgument args
      match formatReal v.toReal style spec with
      | none => none
      | some cs => (place out (asciiBytes cs) spec.width spec.leftJustify).bind (write ps args)
    | .string =>
      let (v, args) := nextArgument args
      let bs := cut spec ((textBytes? v).getD [])
      (place out bs (widthFor spec bs) spec.leftJustify).bind (write ps args)
    | .character =>
      let (v, args) := nextArgument args
      (placeChar out spec (firstChar (textBytes? v))).bind (write ps args)
    | .escaped q enclose =>
      let (v, args) := nextArgument args
      let text := textBytes? v
      let source := text.getD (asciiBytes (if enclose then "NULL" else "(NULL)").toList)
      let bs := cut spec source
      if (escape q false bs).length + 3 > outputLimit then none else
      let bs := escape q (enclose && text.isSome) bs
      (place out bs (widthFor spec bs) spec.leftJustify).bind (write ps args)
    | conv =>
      let (v, args) := nextArgument args
      match integerText spec conv v.toInt with
      | none => none
      | some cs => (place out (asciiBytes cs) spec.width spec.leftJustify).bind (write ps args)

end Printf

/-- `printf`: the bytes of a format with each conversion replaced by the text of its argument;
none when the text reaches the length limit. -/
def printf (format : List UInt8) (args : List Value) : Option (List UInt8) :=
  let format := format.takeWhile (· != 0)
  (Printf.write (Printf.pieces (format.length + 1) format) args #[]).map Array.toList

end Shipyard.Sql
