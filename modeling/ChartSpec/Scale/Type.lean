/-!
# Types of scales

The ten scale types, the keywords that stand for a range, and the ways to round a domain.
-/

namespace ChartSpec

inductive ScaleType where
  | linear
  | log
  | pow
  | sqrt
  | quantile
  | quantize
  | threshold
  | ordinal
  | time
  | utc
  deriving DecidableEq

namespace ScaleType

def name : ScaleType → String
  | linear => "linear"
  | log => "log"
  | pow => "pow"
  | sqrt => "sqrt"
  | quantile => "quantile"
  | quantize => "quantize"
  | threshold => "threshold"
  | ordinal => "ordinal"
  | time => "time"
  | utc => "utc"

def all : List ScaleType :=
  [linear, log, pow, sqrt, quantile, quantize, threshold, ordinal, time, utc]

def ofName? (s : String) : Option ScaleType := all.find? fun t => t.name == s

def isTime : ScaleType → Bool
  | time => true
  | utc => true
  | _ => false

def isOrdinal : ScaleType → Bool
  | ordinal => true
  | _ => false

/-- A scale of numbers: neither of categories nor of times. -/
def isQuantitative (t : ScaleType) : Bool := !t.isTime && !t.isOrdinal

/-- The types whose curve has an exponent. -/
def hasExponent : ScaleType → Bool
  | pow => true
  | sqrt => true
  | _ => false

end ScaleType

/-- A keyword that stands for a range. -/
inductive RangeKeyword where
  | colors
  | moreColors
  | width
  | height
  | shapes
  deriving DecidableEq

namespace RangeKeyword

/-- The keyword as a caller spells it. -/
def name : RangeKeyword → String
  | colors => "colors"
  | moreColors => "more_colors"
  | width => "width"
  | height => "height"
  | shapes => "shapes"

/-- What the document says for it. -/
def literal : RangeKeyword → String
  | colors => "category10"
  | moreColors => "category20"
  | width => "width"
  | height => "height"
  | shapes => "shapes"

def all : List RangeKeyword := [colors, moreColors, width, height, shapes]

def ofName? (s : String) : Option RangeKeyword := all.find? fun k => k.name == s

end RangeKeyword

inductive TimeInterval where
  | second
  | minute
  | hour
  | day
  | week
  | month
  | year
  deriving DecidableEq

namespace TimeInterval

def name : TimeInterval → String
  | second => "second"
  | minute => "minute"
  | hour => "hour"
  | day => "day"
  | week => "week"
  | month => "month"
  | year => "year"

def all : List TimeInterval := [second, minute, hour, day, week, month, year]

def ofName? (s : String) : Option TimeInterval := all.find? fun t => t.name == s

end TimeInterval

/-- Rounding of a domain: on or off for numbers, to an interval for times. -/
inductive Nice where
  | enabled (on : Bool)
  | interval (every : TimeInterval)
  deriving DecidableEq

end ChartSpec
