import Disclosure.Random.Draw
import Disclosure.Text.Numeral
import Disclosure.Tree.Status

/-!
# Weights

A weight is the default distribution of a decision that nobody has automated.
The chance of success is kept as a double; it is compared exactly with the
drawn fraction, by counting how many of the `2 ^ 53` fractions lie below it.
-/

namespace Disclosure

/-- The default distribution of the outcomes of a decision. -/
inductive Weight where
  | always
  | never
  | running
  /-- Success in one half of the cases, still running in the other. -/
  | successOrRunning
  /-- Success with the given probability, failure otherwise. -/
  | chance (probability : Float)

/--
How many of the fractions `0 / 2 ^ 53, 1 / 2 ^ 53, …` below one lie strictly
below the value of a double: none below a negative value or a NaN, all of them
below one and what is above it.
-/
def fractionsBelow (value : Float) : Nat :=
  let bits := value.toBits
  let exponent := ((bits >>> 52) &&& 0x7ff).toNat
  let digits := (bits &&& 0xfffffffffffff).toNat
  if bits >>> 63 = 1 then 0
  else if exponent = 0x7ff ∧ digits ≠ 0 then 0
  else if 1023 ≤ exponent then Nat.pow 2 53
  else if exponent = 0 then
    (digits + Nat.pow 2 1021 - 1) / Nat.pow 2 1021
  else
    let step := Nat.pow 2 (1022 - exponent)
    (Nat.pow 2 52 + digits + step - 1) / step

/--
The double nearest to one half to the given power: exact as long as it is a
double at all, zero beneath the smallest one and infinite above the largest.
-/
def halfPower (exponent : Int) : Float :=
  if 1074 < exponent then 0
  else if 1022 < exponent then
    Float.ofBits (1 <<< (1074 - exponent).toNat.toUInt64)
  else if -1024 < exponent then
    Float.ofBits ((1023 - exponent).toNat.toUInt64 <<< 52)
  else Float.ofBits 0x7ff0000000000000

namespace Weight

/-- Draw an outcome. -/
def sample (stream : RandomStream) : Weight → Status × RandomStream
  | always => (.success, stream)
  | never => (.failure, stream)
  | running => (.running, stream)
  | successOrRunning =>
    let (heads, stream) := stream.flip 0x8000000000000000
    (if heads then .success else .running, stream)
  | chance probability =>
    let (fraction, stream) := stream.nextFraction
    (.ofBool (fraction.toNat < fractionsBelow probability), stream)

/-- The probability of success. -/
def successProbability : Weight → Float
  | always => 1
  | never => 0
  | running => 0
  | successOrRunning => 0.5
  | chance probability => probability

/-- A short form that tells a probability bit by bit. -/
def code : Weight → String
  | always => "A"
  | never => "N"
  | running => "R"
  | successOrRunning => "SR"
  | chance probability =>
    "C" ++ Text.hexPadded 16 probability.toBits.toNat

/-! ## The ladder of named weights -/

def alwaysSucceed : Weight := always
def alwaysFail : Weight := never
def alwaysRunning : Weight := running
def oneNinetyNineInTwoHundred : Weight := chance 0.995
def ninetyNineInOneHundred : Weight := chance 0.99
def fortyNineInFifty : Weight := chance 0.98
def twentyNineInThirty : Weight := chance (29.0 / 30.0)
def nineteenInTwenty : Weight := chance 0.95
def almostCertainlySucceed : Weight := chance 0.93
def almostAlwaysSucceed : Weight := chance 0.9
def usuallySucceed : Weight := chance 0.75
def oftenSucceed : Weight := chance 0.7
def probablySucceed : Weight := chance (2.0 / 3.0)
def uniformSucceedFail : Weight := chance 0.5
def probablyFail : Weight := chance (1.0 / 3.0)
def oftenFail : Weight := chance 0.3
def usuallyFail : Weight := chance 0.25
def almostAlwaysFail : Weight := chance 0.1
def almostCertainlyFail : Weight := chance 0.07
def oneInTwenty : Weight := chance 0.05
def oneInThirty : Weight := chance (1.0 / 30.0)
def oneInFifty : Weight := chance 0.02
def oneInOneHundred : Weight := chance 0.01
def oneInTwoHundred : Weight := chance 0.005

/-- The named weights under their names, from sure success to rare success. -/
def ladder : List (String × Weight) :=
  [("ALWAYS_SUCCEED", alwaysSucceed),
   ("ALWAYS_FAIL", alwaysFail),
   ("ALWAYS_RUNNING", alwaysRunning),
   ("SUCCESS_OR_RUNNING", successOrRunning),
   ("ONE_NINETY_NINE_IN_TWO_HUNDRED", oneNinetyNineInTwoHundred),
   ("NINETY_NINE_IN_ONE_HUNDRED", ninetyNineInOneHundred),
   ("FORTY_NINE_IN_FIFTY", fortyNineInFifty),
   ("TWENTY_NINE_IN_THIRTY", twentyNineInThirty),
   ("NINETEEN_IN_TWENTY", nineteenInTwenty),
   ("ALMOST_CERTAINLY_SUCCEED", almostCertainlySucceed),
   ("ALMOST_ALWAYS_SUCCEED", almostAlwaysSucceed),
   ("USUALLY_SUCCEED", usuallySucceed),
   ("OFTEN_SUCCEED", oftenSucceed),
   ("PROBABLY_SUCCEED", probablySucceed),
   ("UNIFORM_SUCCEED_FAIL", uniformSucceedFail),
   ("PROBABLY_FAIL", probablyFail),
   ("OFTEN_FAIL", oftenFail),
   ("USUALLY_FAIL", usuallyFail),
   ("ALMOST_ALWAYS_FAIL", almostAlwaysFail),
   ("ALMOST_CERTAINLY_FAIL", almostCertainlyFail),
   ("ONE_IN_TWENTY", oneInTwenty),
   ("ONE_IN_THIRTY", oneInThirty),
   ("ONE_IN_FIFTY", oneInFifty),
   ("ONE_IN_ONE_HUNDRED", oneInOneHundred),
   ("ONE_IN_TWO_HUNDRED", oneInTwoHundred)]

/-- The weight of a given name. -/
def ofName? (name : String) : Option Weight := ladder.lookup name

end Weight

end Disclosure
