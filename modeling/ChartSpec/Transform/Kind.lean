/-!
# Kinds of transforms

The twenty-three transforms that records can go through, under the names that the document
gives them.
-/

namespace ChartSpec

inductive TransformKind where
  | array
  | copy
  | cross
  | facet
  | filter
  | flatten
  | fold
  | formula
  | slice
  | sort
  | stats
  | truncate
  | unique
  | window
  | zip
  | force
  | geo
  | geopath
  | link
  | pie
  | stack
  | treemap
  | wordcloud
  deriving DecidableEq

namespace TransformKind

def name : TransformKind → String
  | array => "array"
  | copy => "copy"
  | cross => "cross"
  | facet => "facet"
  | filter => "filter"
  | flatten => "flatten"
  | fold => "fold"
  | formula => "formula"
  | slice => "slice"
  | sort => "sort"
  | stats => "stats"
  | truncate => "truncate"
  | unique => "unique"
  | window => "window"
  | zip => "zip"
  | force => "force"
  | geo => "geo"
  | geopath => "geopath"
  | link => "link"
  | pie => "pie"
  | stack => "stack"
  | treemap => "treemap"
  | wordcloud => "wordcloud"

def all : List TransformKind := [
  array, copy, cross, facet, filter, flatten, fold, formula, slice, sort, stats, truncate,
  unique, window, zip, force, geo, geopath, link, pie, stack, treemap, wordcloud]

def ofName? (s : String) : Option TransformKind := all.find? fun k => k.name == s

end TransformKind

end ChartSpec
