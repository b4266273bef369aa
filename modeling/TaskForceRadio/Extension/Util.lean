import TaskForceRadio.Foundation.Utf8

/-!
# Helpers of the extension

`Util.cpp`: tokens, numbers and vectors as the SQF side writes them, nicknames, and the audio
arithmetic. `float` is the IEEE single format.
-/

set_option autoImplicit false

namespace TaskForceRadio.Extension

/-- The loop of `split` and `splitLimit`: at most `rounds` tokens. A token ends at the next
delimiter, and a delimiter at the end of the string is followed by an empty token. -/
def tokenRounds (delim : UInt8) : Nat → Bytes → List Bytes
  | 0, _ => []
  | rounds + 1, rest =>
      let token := rest.takeWhile (fun b => b != delim)
      match rest.drop token.length with
      | [] => [token]
      | _ :: later => token :: tokenRounds delim rounds later

/-- Every round but the last consumes a delimiter, so the length bounds the rounds. -/
def split (s : Bytes) (delim : UInt8) : List Bytes := tokenRounds delim (s.length + 1) s

def splitLimit (s : Bytes) (delim : UInt8) (maxTokens : Nat) : List Bytes :=
  tokenRounds delim maxTokens s

def isTrue (s : Bytes) : Bool := s == ascii "true" || s == ascii "1"

def space : UInt8 := 0x20
def underscore : UInt8 := 0x5F

/-- The spaces at the front become underscores. -/
def underscoreFront (s : Bytes) : Bytes :=
  (s.takeWhile (fun b => b == space)).map (fun _ => underscore) ++
    s.dropWhile (fun b => b == space)

def convertNickname (nickname : Bytes) : Bytes :=
  if nickname.head? ≠ some space ∧ nickname.getLast? ≠ some space then nickname
  else (underscoreFront (underscoreFront nickname).reverse).reverse

def isDigit (b : UInt8) : Bool := 0x30 ≤ b && b ≤ 0x39

def toLower (b : UInt8) : UInt8 := if 0x41 ≤ b && b ≤ 0x5A then b + 0x20 else b

def isHexDigit (b : UInt8) : Bool := isDigit b || (0x61 ≤ toLower b && toLower b ≤ 0x66)

def digitValue (b : UInt8) : Nat :=
  if isDigit b then b.toNat - 0x30 else (toLower b).toNat - 0x61 + 10

def digitsValue (base : Nat) (digits : Bytes) : Nat :=
  digits.foldl (fun value b => base * value + digitValue b) 0

/-- `isspace` in the C locale. -/
def isSpace (b : UInt8) : Bool := b == space || (0x09 ≤ b && b ≤ 0x0D)

/-- The optional exponent behind a mantissa, introduced by `mark`. -/
def parseExponent (mark : UInt8) (s : Bytes) : Int :=
  match s with
  | [] => 0
  | b :: rest =>
      if toLower b = mark then
        match rest with
        | 0x2D :: digits => -(digitsValue 10 (digits.takeWhile isDigit) : Int)
        | 0x2B :: digits => digitsValue 10 (digits.takeWhile isDigit)
        | digits => digitsValue 10 (digits.takeWhile isDigit)
      else 0

/-- The digits before and after the point, and what follows them. -/
def parseMantissa (isMantissaDigit : UInt8 → Bool) (s : Bytes) : Bytes × Bytes × Bytes :=
  let whole := s.takeWhile isMantissaDigit
  match s.drop whole.length with
  | 0x2E :: rest => (whole, rest.takeWhile isMantissaDigit, rest.dropWhile isMantissaDigit)
  | rest => (whole, [], rest)

/-- `mantissa * 10 ^ exponent`, correctly rounded. -/
def scaleDecimal (mantissa : Nat) (exponent : Int) : Float32 :=
  if exponent < 0 then Float32.ofScientific mantissa true exponent.natAbs
  else Float32.ofScientific mantissa false exponent.natAbs

/-- `mantissa * 2 ^ exponent`, correctly rounded: `2 ^ -n` is `5 ^ n * 10 ^ -n`. -/
def scaleBinary (mantissa : Nat) (exponent : Int) : Float32 :=
  if exponent < 0 then
    Float32.ofScientific (mantissa * Nat.pow 5 exponent.natAbs) true exponent.natAbs
  else Float32.ofScientific (mantissa * Nat.pow 2 exponent.natAbs) false 0

def parseDecimal (s : Bytes) : Float32 :=
  let (whole, fraction, rest) := parseMantissa isDigit s
  if whole ++ fraction = [] then 0
  else
    scaleDecimal (digitsValue 10 (whole ++ fraction)) (parseExponent 0x65 rest - fraction.length)

def parseHexadecimal (s : Bytes) : Float32 :=
  let (whole, fraction, rest) := parseMantissa isHexDigit s
  if whole ++ fraction = [] then 0
  else
    scaleBinary (digitsValue 16 (whole ++ fraction))
      (parseExponent 0x70 rest - 4 * fraction.length)

def parseMagnitude (s : Bytes) : Float32 :=
  if (s.take 3).map toLower = ascii "inf" then 1 / 0
  else if (s.take 3).map toLower = ascii "nan" then 0 / 0
  else if (s.take 2).map toLower = ascii "0x" then parseHexadecimal (s.drop 2)
  else parseDecimal s

/-- `strtof` of the C library, in the C locale. -/
def strtof (s : Bytes) : Float32 :=
  match s.dropWhile isSpace with
  | 0x2D :: rest => -parseMagnitude rest
  | 0x2B :: rest => parseMagnitude rest
  | rest => parseMagnitude rest

def parseArmaNumber (s : Bytes) : Float32 := if s = [] then 0 else strtof s

/-- `lround`: halves away from zero. The result for a value that no `long` holds is the one the
conversion instruction leaves. -/
def lround (x : Float32) : Int :=
  let magnitude := x.abs
  if magnitude < 2147483648 then
    let whole := magnitude.toUInt64.toNat
    let rounded : Int := if magnitude - Float32.ofNat whole ≥ 0.5 then whole + 1 else whole
    if x < 0 then -rounded else rounded
  else -2147483648

def parseArmaNumberToInt (s : Bytes) : Int := lround (parseArmaNumber s)

structure Vec3 where
  x : Float32 := 0
  y : Float32 := 0
  z : Float32 := 0
  deriving DecidableEq, Repr

namespace Vec3

def add (v w : Vec3) : Vec3 := ⟨v.x + w.x, v.y + w.y, v.z + w.z⟩

def sub (v w : Vec3) : Vec3 := ⟨v.x - w.x, v.y - w.y, v.z - w.z⟩

def scale (v : Vec3) (f : Float32) : Vec3 := ⟨v.x * f, v.y * f, v.z * f⟩

def distanceTo (v w : Vec3) : Float32 :=
  let d := v.sub w
  (d.x * d.x + d.y * d.y + d.z * d.z).sqrt

def isNull (v : Vec3) : Bool := v.x == 0 && v.y == 0 && v.z == 0

end Vec3

/-- `[1.5,2,3]` or `1.5,2,3`; anything else is the null vector. -/
def parseVec3 (coordinateString : Bytes) : Vec3 :=
  if coordinateString.length < 3 then {}
  else
    let inner :=
      if coordinateString.head? = some 0x5B then
        let count :=
          if coordinateString.getLast? = some 0x5D then coordinateString.length - 2
          else coordinateString.length - 1
        (coordinateString.drop 1).take count
      else coordinateString
    match split inner 0x2C with
    | [x, y] => { x := parseArmaNumber x, y := parseArmaNumber y }
    | [x, y, z] => ⟨parseArmaNumber x, parseArmaNumber y, parseArmaNumber z⟩
    | [x, y, z, _] => ⟨parseArmaNumber x, parseArmaNumber y, parseArmaNumber z⟩
    | _ => {}

def distanceUnderwater (a b : Vec3) : Float32 :=
  if a.z > 0 ∧ b.z > 0 then 0
  else if a.z < 0 ∧ b.z < 0 then a.distanceTo b
  else
    let lower := if a.z < b.z then a else b
    let upper := if a.z > b.z then a else b
    let diff := upper.sub lower
    if diff.z == 0 || lower.z == 0 then 0
    else
      let divisor := diff.z / (lower.z * -1)
      if divisor == 0 then 0
      else
        let toWater : Vec3 := ⟨diff.x / divisor, diff.y / divisor, diff.z / divisor⟩
        let waterLineIntersect := lower.add toWater
        if a.z < 0 then a.distanceTo waterLineIntersect else b.distanceTo waterLineIntersect

def kPi : Float32 := 3.14159265358979323846
def kCantSpeakDistance : Float32 := 5
def kCantSpeakGain : Float32 := 14
def kSpeakerGain : Float32 := 4
def kDdMinDistance : Float32 := 70
def kDdMaxDistance : Float32 := 300
def kNoAntennaLoss : Float32 := 7

def clampf (v low high : Float32) : Float32 := if v < low then low else if v > high then high else v

def volumeMultiplier (volumeValue : Float32) : Float32 := ((volumeValue + 1) / 10).pow 4

def volumeAttenuation (distance : Float32) (shouldPlayerHear : Bool)
    (maxAudible multiplier : Float32) : Float32 :=
  if distance ≤ 1 then 1
  else
    let maxDistance := if shouldPlayerHear then maxAudible * multiplier else kCantSpeakDistance
    if maxDistance ≤ 0 then 0
    else
      let gain := Float32.pow 10 (((distance / (maxDistance * 2)) * -60) / 20)
      if gain < 0.001 then 0 else if gain < 1 then gain else 1

/-- The two loops of `wrapPi`. The difference of two bearings needs one round at most. -/
def wrapPiRounds : Nat → Float32 → Float32
  | 0, angle => angle
  | rounds + 1, angle =>
      if angle > kPi then wrapPiRounds rounds (angle - 2 * kPi)
      else if angle < -kPi then wrapPiRounds rounds (angle + 2 * kPi)
      else angle

def wrapPi (angle : Float32) : Float32 := wrapPiRounds 2 angle

/-- 0 is straight ahead, positive is to the right; x is east and y is north. -/
def azimuthTo (listener viewDirection target : Vec3) : Float32 :=
  let delta := target.sub listener
  if delta.x == 0 && delta.y == 0 then 0
  else
    let bearingToTarget := Float32.atan2 delta.x delta.y
    let viewBearing :=
      if viewDirection.x != 0 || viewDirection.y != 0 then
        Float32.atan2 viewDirection.x viewDirection.y
      else 0
    wrapPi (bearingToTarget - viewBearing)

/-- Three numbers in brackets, one of them with an exponent. -/
example : parseVec3 (ascii "[1.5,-2,3e1]") = ⟨1.5, -2, 30⟩ := by decide +kernel

end TaskForceRadio.Extension
