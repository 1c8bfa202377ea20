import Shipyard.Sql.Value
import Shipyard.Sql.Error
import Shipyard.Sql.Printf
import Shipyard.Sql.Calendar
import Shipyard.Sql.JsonFunc
import Shipyard.Sql.MathFunc
/-!
# Scalar functions, patterns and casts

The scalar functions of the engine, each a function of its argument values. A call that the
catalog accepts but this module does not compute gives null.

`LIKE` matches `%` against any run of characters and `_` against one, folding ASCII case, with
an optional escape character that makes the next pattern character literal. `GLOB` matches `*`,
`?` and bracketed classes, keeping case.

A cast converts under the affinity of its type, except that a cast to an integer or a real reads
the longest numeric prefix of a text, and a cast to text or a blob reinterprets the bytes.

The date and time functions read times as `YYYY-MM-DD`, `YYYY-MM-DD HH:MM[:SS[.SSS]]` (with `T`
allowed between the parts), `HH:MM[:SS]`, a Julian day number, or `now` (the clock of the call);
they work in whole milliseconds on the proleptic Gregorian calendar.
-/
namespace Shipyard.Sql

/-- What function calls read besides their arguments. -/
structure CallEnv where
  /-- The current time, as `YYYY-MM-DD HH:MM:SS`. -/
  clock : String := "2000-01-01 00:00:00"
  lastRowid : Int := 0
  changes : Int := 0
  totalChanges : Int := 0
  /-- Whether `LIKE` tells upper from lower case. -/
  caseSensitiveLike : Bool := false
  deriving Inhabited

namespace Func

/-- ASCII lower case of a code point. -/
def foldCode (c : Nat) : Nat := if 65 ≤ c && c ≤ 90 then c + 32 else c

/-- The code points of a value's text up to its first zero byte, as the pattern matchers read
it. -/
def patternCodes (v : Value) : List Nat := ((v.sqlText?.map fun t => t.untilZero.codes).getD [])

/-- Whether two code points match in a `LIKE` pattern: equal, or under the default equal up
to ASCII case. -/
def likeSame (caseSensitive : Bool) (a b : Nat) : Bool :=
  if caseSensitive then a == b else foldCode a == foldCode b

/-- `LIKE`: whether a text matches a pattern. Each call reads at least one pattern character,
so the pattern's length bounds the depth. -/
def likeMatch (caseSensitive : Bool) : Nat → List Nat → List Nat → Option Nat → Bool
  | 0, _, _, _ => false
  | fuel + 1, p, t, esc =>
    match p with
    | [] => t.isEmpty
    | c :: ps =>
      if some c == esc then
        match ps, t with
        | e :: ps', x :: ts => likeSame caseSensitive e x && likeMatch caseSensitive fuel ps' ts esc
        | _, _ => false
      else if c == 37 then
        (List.range (t.length + 1)).any fun k => likeMatch caseSensitive fuel ps (t.drop k) esc
      else if c == 95 then
        match t with
        | _ :: ts => likeMatch caseSensitive fuel ps ts esc
        | [] => false
      else
        match t with
        | x :: ts => likeSame caseSensitive c x && likeMatch caseSensitive fuel ps ts esc
        | [] => false

/-- The members of a bracketed class of `GLOB`, after `[`: whether the character is in it,
and the pattern after `]`; none when the class is not closed. -/
def globClass (p : List Nat) (x : Nat) : Option (Bool × List Nat) :=
  let (negated, p) := match p with
    | 94 :: r => (true, r)
    | _ => (false, p)
  let (first, p) := match p with
    | 93 :: r => ([93], r)
    | _ => ([], p)
  let body := p.takeWhile (· != 93)
  let rest := p.drop body.length
  match rest with
  | 93 :: after =>
    let items := first ++ body
    let rec member : List Nat → Bool
      | a :: 45 :: b :: more => (a ≤ x && x ≤ b) || member more
      | a :: more => a == x || member more
      | [] => false
    termination_by l => l.length
    let hit := member items
    some (if negated then !hit else hit, after)
  | _ => none

/-- `GLOB`: whether a text matches a pattern, case kept. -/
def globMatch : Nat → List Nat → List Nat → Bool
  | 0, _, _ => false
  | fuel + 1, p, t =>
    match p with
    | [] => t.isEmpty
    | 42 :: ps => (List.range (t.length + 1)).any fun k => globMatch fuel ps (t.drop k)
    | 63 :: ps =>
      match t with
      | _ :: ts => globMatch fuel ps ts
      | [] => false
    | 91 :: ps =>
      match t with
      | x :: ts => match globClass ps x with
        | some (true, after) => globMatch fuel after ts
        | _ => false
      | [] => false
    | c :: ps =>
      match t with
      | x :: ts => c == x && globMatch fuel ps ts
      | [] => false

/-- `x LIKE pattern [ESCAPE e]`, null if any operand is null. -/
def like (caseSensitive : Bool) (pattern x : Value) (escape : Option Value) :
    Except SqlError Value := do
  let esc ← match escape with
    | none => pure none
    | some .null => return .null
    | some e => match patternCodes e with
      | [c] => pure (some c)
      | _ => throw (.plain "ESCAPE expression must be a single character")
  if pattern.isNull || x.isNull then return .null
  let p := patternCodes pattern
  if pattern.textBytes.length > 50000 then throw (.plain "LIKE or GLOB pattern too complex")
  pure (Value.ofBool (likeMatch caseSensitive (p.length + 1) p (patternCodes x) esc))

/-- `x GLOB pattern`, null if either is null. -/
def glob (pattern x : Value) : Value :=
  if pattern.isNull || x.isNull then .null
  else
    let p := patternCodes pattern
    Value.ofBool (globMatch (p.length + 1) p (patternCodes x))

/-- The bytes of a value's text, or of a blob. -/
def bytesOf (v : Value) : List UInt8 := v.textBytes

/-- A hexadecimal digit in upper case. -/
def hexDigit (n : Nat) : Char := if n < 10 then Char.ofNat (48 + n) else Char.ofNat (55 + n)

/-- The upper-case hexadecimal text of some bytes. -/
def hexText (bytes : List UInt8) : String :=
  String.ofList (bytes.flatMap fun b => [hexDigit (b.toNat / 16), hexDigit (b.toNat % 16)])

/-- The text of a real as `quote` writes it: fifteen significant digits when they read back as
the same real, else twenty after the point in exponent form; an infinity is `9.0e+999`, which
reads back as one. -/
def realLiteral (r : Float) : String :=
  let short := (formatReal r 'g' { altForm := true, zeroPad := true, precision := some 15 }).getD []
  if (readReal short).1 == r then String.ofList short
  else String.ofList ((formatReal r 'e' { altForm := true, zeroPad := true, precision := some 20 }).getD [])

/-- The text of a value as `quote` writes it: a literal that reads back as the value; a text
ends at its first zero byte. -/
def quote : Value → SqlText
  | .null => "NULL"
  | .integer i => Decimal.intText i
  | .real r => realLiteral r
  | .text s => ⟨39 :: s.untilZero.bytes.flatMap (fun b => if b == 39 then [39, 39] else [b]) ++ [39]⟩
  | .blob b => "X'" ++ hexText b ++ "'"

/-- `substr(x, start, length)`: characters of a text (up to its first zero byte), bytes of a
blob, counted from 1. A
negative start counts from the end; a negative length takes the characters before the start;
a start of 0 stands before the first character, so that a length reaching past it counts one
less. -/
def substr (x : Value) (start : Int) (len : Option Int) : Value :=
  let isBlob := match x with
    | .blob _ => true
    | _ => false
  let units : List (List UInt8) :=
    if isBlob then (bytesOf x).map fun b => [b]
    else SqlText.chunksOf ((bytesOf x).takeWhile (· != 0))
  let size : Int := units.length
  let (p1, p2) : Int × Int :=
    let p1 := if start < 0 then size + start else if start > 0 then start - 1 else -1
    match len with
    | none => (p1, 1000000000)
    | some l =>
      if l < 0 then
        let b := p1 + l
        (b, -l)
      else (p1, l)
  -- clip the range [p1, p1 + p2) to [0, size)
  let (p1, p2) := if start == 0 && len.isSome then (0, max 0 (p2 - 1)) else (p1, p2)
  let lo := max 0 p1
  let hi := min size (p1 + p2)
  let count := if hi > lo then (hi - lo).toNat else 0
  let taken := ((units.drop lo.toNat).take count).flatten
  if isBlob then .blob taken else .text ⟨taken⟩

/-- Takes off, from one end of some bytes, any of the given characters (each as its bytes) as
long as one is there, the first of them that is there each time. Each step takes at least one
byte, so the bytes bound the steps. -/
def trimFront (set : List (List UInt8)) : Nat → List UInt8 → List UInt8
  | 0, bs => bs
  | fuel + 1, bs =>
    match set.find? fun c => !c.isEmpty && c.isPrefixOf bs with
    | some c => trimFront set fuel (bs.drop c.length)
    | none => bs

/-- `trim`, `ltrim`, `rtrim`: the characters of the set taken off one end or both. The set is
read as characters up to its first zero byte; the text is matched byte by byte. -/
def trimWith (x : Value) (set : Value) (left right : Bool) : Value :=
  if x.isNull || set.isNull then .null else
  let chars := SqlText.chunksOf (set.textBytes.takeWhile (· != 0))
  let bs := x.textBytes
  if chars.isEmpty then .text ⟨bs⟩ else
  let bs := if left then trimFront chars (bs.length + 1) bs else bs
  let bs := if right then (trimFront (chars.map List.reverse) (bs.length + 1) bs.reverse).reverse
    else bs
  .text ⟨bs⟩

/-- Replaces every occurrence of a non-empty pattern, byte by byte. -/
def replaceAll (s pat rep : List UInt8) : List UInt8 :=
  let rec go : Nat → List UInt8 → List UInt8
    | 0, cs => cs
    | fuel + 1, cs =>
      if pat.isEmpty then cs
      else if pat.isPrefixOf cs then rep ++ go fuel (cs.drop pat.length)
      else match cs with
        | c :: rest => c :: go fuel rest
        | [] => []
  go (s.length + 1) s

/-- The position (from 1) of the first occurrence of `needle` in `hay`, counted in characters
of a text or in bytes, or 0. The search moves on one byte at a time, and in a text also over
the continuation bytes that follow. -/
def instr (hay needle : List UInt8) (isText : Bool) : Nat :=
  if needle.isEmpty then 1 else
  let rec go : Nat → List UInt8 → Nat → Nat
    | 0, _, _ => 0
    | fuel + 1, cs, i =>
      if needle.length > cs.length then 0
      else if needle.isPrefixOf cs then i
      else
        let rest := cs.drop 1
        let rest := if isText then rest.dropWhile SqlText.isContinuationByte else rest
        go fuel rest (i + 1)
  go (hay.length + 1) hay 1

/-- `round(r, places)`: a real beyond 2^52 is whole already; to no places it is cut to an
integer after adding a half away from zero; else it is written with that many places after
the point, rounded half up in its decimal digits, and read back. -/
def roundTo (r : Float) (places : Nat) : Float :=
  if r < -4503599627370496.0 || r > 4503599627370496.0 then r
  else if places == 0 then Float.ofInt (realToInt (r + (if r < 0 then -0.5 else 0.5)))
  else (readReal ((formatReal r 'f' { altForm := true, precision := some places }).getD [])).1

/-- The first argument that is not null. -/
def firstNotNull : List Value → Value
  | [] => .null
  | v :: rest => if v.isNull then firstNotNull rest else v

/-- The smallest or largest of values under a collation, null if any is null. Of equal values
the largest is the first and the smallest the last. -/
def extreme (coll : Collation) (largest : Bool) (args : List Value) : Value :=
  if args.any (·.isNull) then .null else
  match args with
  | [] => .null
  | a :: rest => rest.foldl (fun best v =>
      let c := Value.compare coll best v
      if (largest && c == .lt) || (!largest && c != .lt) then v else best) a

/-- The functions that compare their arguments under a collation, that of their first argument
that has one: `min` and `max` of several arguments, and `nullif`. None for any other name. -/
def collated (name : String) (coll : Collation) (args : List Value) : Option Value :=
  match name with
  | "min" => some (extreme coll false args)
  | "max" => some (extreme coll true args)
  | "nullif" =>
    let a := args[0]?.getD .null
    some (if Value.compare coll a (args[1]?.getD .null) == .eq then .null else a)
  | _ => none

/-- The absolute value; the smallest integer has none. -/
def abs (v : Value) : Except SqlError Value :=
  match v with
  | .null => pure .null
  | .integer i =>
    if i == minInt then throw (.plain "integer overflow") else pure (.integer i.natAbs)
  | .real r => pure (.real r.abs)
  | _ => pure (.real v.toReal.abs)

/-- The failure of `MATCH` outside a full-text table: the name is known, so a statement using
it can be prepared, but it cannot be computed. -/
def matchMisused : SqlError := .plain "unable to use function MATCH in the requested context"

/-- The options the engine was built with, as `sqlite_compileoption_get` lists them. -/
def compileOptions : List String :=
  ["ATOMIC_INTRINSICS=1", "COMPILER=gcc-12.2.0", "DEFAULT_AUTOVACUUM", "DEFAULT_CACHE_SIZE=-2000",
   "DEFAULT_FILE_FORMAT=4", "DEFAULT_FOREIGN_KEYS", "DEFAULT_JOURNAL_SIZE_LIMIT=-1",
   "DEFAULT_MMAP_SIZE=0", "DEFAULT_PAGE_SIZE=4096", "DEFAULT_PCACHE_INITSZ=20",
   "DEFAULT_RECURSIVE_TRIGGERS", "DEFAULT_SECTOR_SIZE=4096", "DEFAULT_SYNCHRONOUS=2",
   "DEFAULT_WAL_AUTOCHECKPOINT=1000", "DEFAULT_WAL_SYNCHRONOUS=2", "DEFAULT_WORKER_THREADS=0",
   "DIRECT_OVERFLOW_READ", "ENABLE_API_ARMOR", "ENABLE_COLUMN_METADATA", "ENABLE_DBSTAT_VTAB",
   "ENABLE_FTS3", "ENABLE_FTS3_PARENTHESIS", "ENABLE_FTS5", "ENABLE_MATH_FUNCTIONS",
   "ENABLE_MEMORY_MANAGEMENT", "ENABLE_RTREE", "ENABLE_STAT4", "MALLOC_SOFT_LIMIT=1024",
   "MAX_ATTACHED=10", "MAX_COLUMN=2000", "MAX_COMPOUND_SELECT=500",
   "MAX_DEFAULT_PAGE_SIZE=8192", "MAX_EXPR_DEPTH=1000", "MAX_FUNCTION_ARG=127",
   "MAX_LENGTH=1000000000", "MAX_LIKE_PATTERN_LENGTH=50000", "MAX_MMAP_SIZE=0x7fff0000",
   "MAX_PAGE_COUNT=0xfffffffe", "MAX_PAGE_SIZE=65536", "MAX_SQL_LENGTH=1000000000",
   "MAX_TRIGGER_DEPTH=1000", "MAX_VARIABLE_NUMBER=32766", "MAX_VDBE_OP=250000000",
   "MAX_WORKER_THREADS=8", "MUTEX_PTHREADS", "SOUNDEX", "SYSTEM_MALLOC", "TEMP_STORE=1",
   "THREADSAFE=1", "USE_URI"]

/-- Whether an option names one the engine was built with: a prefix of a listed option (an
optional `SQLITE_` before it, in any case) that ends where a name cannot go on. -/
def compileOptionUsed (name : String) : Bool :=
  let cs := name.toList
  let cs := if (String.ofList (cs.take 7)).toUpper == "SQLITE_" then cs.drop 7 else cs
  let n := cs.length
  compileOptions.any fun opt =>
    let os := opt.toList
    os.length ≥ n && (String.ofList (os.take n)).toUpper == (String.ofList cs).toUpper &&
      (match os[n]? with
        | some c => !(isAlnum c || c == '_' || c == '$' || c.toNat ≥ 0x80)
        | none => true)

/-- The bytes that pairs of hexadecimal digits stand for, as `unhex` reads them: between
pairs the characters of `pass` may stand and are skipped; any other character, or a pair cut
short, gives none. -/
def unhex (hex : List Char) (pass : List Char) : Option (List UInt8) :=
  let digit (c : Char) : Option Nat :=
    if '0' ≤ c && c ≤ '9' then some (c.toNat - 48)
    else if 'a' ≤ c && c ≤ 'f' then some (c.toNat - 87)
    else if 'A' ≤ c && c ≤ 'F' then some (c.toNat - 55)
    else none
  let rec go : List Char → List UInt8 → Option (List UInt8)
    | [], acc => some acc.reverse
    | c :: rest, acc =>
      match digit c with
      | some hi =>
        match rest with
        | d :: more =>
          match digit d with
          | some lo => go more ((hi * 16 + lo).toUInt8 :: acc)
          | none => none
        | [] => none
      | none => if pass.contains c then go rest acc else none
  go hex []

/-- The soundex code of a byte (its low seven bits): the group of consonants it is in, 0 for
vowels, `H`, `W`, `Y` and what is not a letter. -/
def soundexCode (b : UInt8) : Nat :=
  let c := (b &&& 0x7f).toNat
  let codes := [0, 1, 2, 3, 0, 1, 2, 0, 0, 2, 2, 4, 5, 5, 0, 1, 2, 6, 2, 3, 0, 1, 0, 2, 0, 2]
  if 65 ≤ c && c ≤ 90 then codes.getD (c - 65) 0
  else if 97 ≤ c && c ≤ 122 then codes.getD (c - 97) 0
  else 0

/-- The soundex of a text's bytes: its first ASCII letter in upper case and the codes of the
letters after it, a code not repeated while no other byte comes between, cut or padded with
zeros to four characters; `?000` when the text has no ASCII letter. -/
def soundex (bytes : List UInt8) : String :=
  let isLetter (b : UInt8) : Bool := (65 ≤ b && b ≤ 90) || (97 ≤ b && b ≤ 122)
  match bytes.dropWhile (!isLetter ·) with
  | [] => "?000"
  | first :: rest =>
    let head := Char.ofNat (if 97 ≤ first then first.toNat - 32 else first.toNat)
    let (codes, _) := rest.foldl (fun (out, prev) b =>
      if out.length ≥ 3 then (out, prev) else
      let code := soundexCode b
      if code == 0 then (out, 0)
      else if code == prev then (out, prev)
      else (out ++ [Char.ofNat (48 + code)], code)) (([] : List Char), soundexCode first)
    String.ofList (head :: codes ++ List.replicate (3 - codes.length) '0')

/-- The identity of the engine's source, as `sqlite_source_id` gives it. -/
def sourceId : String :=
  "2024-05-23 13:25:27 96c92aba00c8375bc32fafcdf12429c58bd8aabfcadab6683e35bbb9cdebf19e"

/-- The value of a call of a scalar function, by its name in lower case. -/
def scalar (env : CallEnv) (name : String) (args : List Value) : Except SqlError Value := do
  let arg (i : Nat) : Value := args[i]?.getD .null
  let n := args.length
  match name with
  | "abs" => abs (arg 0)
  | "coalesce" | "ifnull" => pure (firstNotNull args)
  | "nullif" => pure ((collated "nullif" .binary args).getD .null)
  | "iif" => pure (if (arg 0).truth? == some true then arg 1 else arg 2)
  | "length" => pure (match arg 0 with
    | .null => .null
    | .blob b => .integer b.length
    | v => .integer ((v.sqlText?.map SqlText.length).getD 0))
  | "octet_length" => pure (if (arg 0).isNull then .null else .integer (bytesOf (arg 0)).length)
  | "lower" => pure (if (arg 0).isNull then .null
      else .text ⟨(arg 0).textBytes.map fun b => if 65 ≤ b && b ≤ 90 then b + 32 else b⟩)
  | "upper" => pure (if (arg 0).isNull then .null
      else .text ⟨(arg 0).textBytes.map fun b => if 97 ≤ b && b ≤ 122 then b - 32 else b⟩)
  | "substr" | "substring" =>
    if (arg 0).isNull || (arg 1).isNull || (args.length == 3 && (arg 2).isNull) then pure .null
    else pure (substr (arg 0) (arg 1).toInt (if args.length == 3 then some (arg 2).toInt else none))
  | "trim" => pure (trimWith (arg 0) (if n == 2 then arg 1 else .text " ") true true)
  | "ltrim" => pure (trimWith (arg 0) (if n == 2 then arg 1 else .text " ") true false)
  | "rtrim" => pure (trimWith (arg 0) (if n == 2 then arg 1 else .text " ") false true)
  | "replace" =>
    if (arg 0).isNull || (arg 1).isNull then pure .null
    else if (arg 1).textBytes.head? == some 0 || (arg 1).textBytes.isEmpty then pure (arg 0)
    else if (arg 2).isNull then pure .null
    else pure (.text ⟨replaceAll (arg 0).textBytes (arg 1).textBytes (arg 2).textBytes⟩)
  | "instr" =>
    if (arg 0).isNull || (arg 1).isNull then pure .null
    else
      let bothBlobs := match arg 0, arg 1 with
        | .blob _, .blob _ => true
        | _, _ => false
      pure (.integer (instr (arg 0).textBytes (arg 1).textBytes !bothBlobs))
  | "typeof" => pure (.text (arg 0).typeName)
  | "sqlite_compileoption_used" => pure (match (arg 0).text? with
    | some name => Value.ofBool (compileOptionUsed name)
    | none => .null)
  | "sqlite_compileoption_get" =>
    let i := (arg 0).toInt
    pure (if i < 0 then .null else ((compileOptions[i.toNat]?).map fun o => Value.text o).getD .null)
  | "round" =>
    if n == 2 && (arg 1).isNull then pure .null else
    match arg 0 with
    | .null => pure .null
    | v =>
      let places := if n == 2 then min 30 (max 0 (arg 1).toInt) else 0
      pure (.real (roundTo v.toReal places.toNat))
  | "min" => pure (extreme .binary false args)
  | "max" => pure (extreme .binary true args)
  | "hex" => pure (.text (hexText (bytesOf (arg 0))))
  | "quote" => pure (.text (quote (arg 0)))
  | "random" => pure (.integer 4096)
  | "randomblob" =>
    let size := (max 1 (arg 0).toInt).toNat
    if size > SqlError.lengthLimit then throw SqlError.tooBig
    else pure (.blob (List.replicate size 0))
  | "zeroblob" =>
    let size := (max 0 (arg 0).toInt).toNat
    if size > SqlError.lengthLimit then throw SqlError.tooBig
    else pure (.blob (List.replicate size 0))
  | "unicode" =>
    let codes : List Nat := ((arg 0).sqlText?.map fun t => t.untilZero.codes).getD []
    pure (match codes with
      | c :: _ => .integer c
      | [] => .null)
  | "char" => pure (.text (SqlText.ofCodes (args.map fun v =>
      let x := v.toInt
      if x < 0 || x > 0x10ffff then 0xfffd else x.toNat)))
  | "printf" | "format" =>
    match args with
    | [] => pure .null
    | f :: rest => match Printf.textBytes? f with
      | none => pure .null
      | some format => pure ((printf format rest).elim .null fun bs => .text ⟨bs⟩)
  | "sign" => pure (match (arg 0).numeric with
    | .integer i => .integer (if i > 0 then 1 else if i < 0 then -1 else 0)
    | .real r => .integer (if r > 0 then 1 else if r < 0 then -1 else 0)
    | _ => .null)
  | "concat" => pure (.text ⟨(args.map Value.textBytes).flatten⟩)
  | "concat_ws" =>
    match args with
    | sep :: rest =>
      if sep.isNull then pure .null
      else pure (.text ⟨sep.textBytes.intercalate
        ((rest.map Value.textBytes).filter fun b => !b.isEmpty)⟩)
    | [] => pure .null
  | "changes" => pure (.integer env.changes)
  | "total_changes" => pure (.integer env.totalChanges)
  | "last_insert_rowid" => pure (.integer env.lastRowid)
  | "sqlite_version" => pure (.text "3.46.0")
  | "likely" | "unlikely" | "likelihood" => pure (arg 0)
  | "like" => like env.caseSensitiveLike (arg 0) (arg 1) (if n == 3 then some (arg 2) else none)
  | "glob" => pure (glob (arg 0) (arg 1))
  | "date" => pure (((momentOf env.clock args).map fun p => Value.text p.withYmd.dateText).getD .null)
  | "time" => pure (((momentOf env.clock args).map fun p => Value.text p.withHms.clockText).getD .null)
  | "datetime" => pure (((momentOf env.clock args).map fun p =>
      let p := p.withFields
      Value.text (p.dateText ++ " " ++ p.clockText)).getD .null)
  | "julianday" => pure (((momentOf env.clock args).map fun p =>
      Value.real (Float.ofInt p.jd / 86400000.0)).getD .null)
  | "unixepoch" => pure (((momentOf env.clock args).map fun p =>
      if p.subsec then Value.real p.unixReal else Value.integer p.unixSeconds).getD .null)
  | "strftime" =>
    match args with
    | f :: rest =>
      if f.isNull then pure .null
      else pure (((momentOf env.clock rest).bind fun p => strftime f.chars p).map Value.text
        |>.getD .null)
    | [] => pure .null
  | "timediff" => pure (((timediff env.clock (arg 0) (arg 1)).map Value.text).getD .null)
  | "match" => throw matchMisused
  | "unhex" => pure (match (arg 0).text?, (if n == 2 then (arg 1).text? else some "") with
    | some hex, some pass => (unhex hex.toList pass.toList).elim .null Value.blob
    | _, _ => .null)
  | "soundex" => pure (.text (soundex (arg 0).textBytes))
  | "sqlite_source_id" => pure (.text sourceId)
  | "fts5_source_id" => pure (.text ("fts5: " ++ sourceId))
  | _ => pure ((MathFunc.call name args).getD .null)

/-- The value of a call of a scalar function, by its name in lower case, and whether it is
JSON text: each argument comes with whether it is JSON text made by a JSON function. -/
def call (env : CallEnv) (name : String) (args : List (Value × Bool)) :
    Except SqlError (Value × Bool) := do
  let jsonArgs := args.map fun (v, j) => ({ value := v, isJson := j } : JsonArg)
  match jsonCall name jsonArgs with
  | some r => r
  | none =>
    if name == "subtype" then
      pure (.integer (if (args.head?.map (·.2)).getD false then 74 else 0), false)
    else pure (← scalar env name (args.map (·.1)), false)

/-- The affinity a cast to a type gives: that of the type, numeric for no type. -/
def castAffinity (type : String) : Affinity :=
  if type.isEmpty then .numeric else Affinity.ofType type

/-- `CAST(v AS type)`. -/
def cast (v : Value) (type : String) : Value :=
  match v with
  | .null => .null
  | _ =>
    match castAffinity type with
    | .text => .text ⟨v.textBytes⟩
    | .blob => .blob (bytesOf v)
    | .integer => match v with
      | .integer _ => v
      | .real r => .integer (realToInt r)
      | _ => .integer v.toInt
    | .real => match v with
      | .real _ => v
      | .integer i => .real (Float.ofInt i)
      | _ => .real v.toReal
    | .numeric => match v with
      | .integer _ | .real _ => v
      | _ =>
        let n := v.asNumber
        match n with
        | .real r => if realIsInt r (realToInt r) then .integer (realToInt r) else n
        | _ => n

end Func

end Shipyard.Sql
