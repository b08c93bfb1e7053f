import Calculator.Log.Directive

/-! # Log filters

A filter is a list of directives, separated by commas. Of the directives that speak of an event one
decides whether it is shown, and an event that no directive speaks of is not shown. -/

namespace Calculator.Log

/-- The directives of a filter, in order. -/
abbrev Filter := List Directive

/-- The stretches between the commas of a text, where `seen` is the open one, last first. -/
def splitCommas (seen : List Char) : List Char → List (List Char)
  | [] => [seen.reverse]
  | ',' :: rest => seen.reverse :: splitCommas [] rest
  | c :: rest => splitCommas (c :: seen) rest

/-- The directives between the commas; nothing between two commas is no directive. -/
def Filter.parse (text : String) : Except Directive.Error Filter :=
  ((splitCommas [] text.toList).filter (· ≠ [])).mapM Directive.parse

/-- The directive that decides on an event, if one speaks of it. -/
def Filter.find? (filter : Filter) (event : Event) : Option Directive :=
  filter.foldl (fun best directive =>
    if directive.speaksOf event && best.all (·.yieldsTo directive) then some directive
    else best) none

/-- The event is shown. -/
def Filter.shows (filter : Filter) (event : Event) : Bool :=
  match (filter.find? event).bind Directive.level with
  | some level => event.level.rank ≤ level.rank
  | none => false

/-! ### Lines -/

/-- How the value of a field is shown. -/
def fieldText : Event.Field → String
  | .count n => String.ofList (Decimal.integer n)
  | .shown text => text
  | .quoted text => Text.quoteText text

/-- The line of an event: level, target, message, and the fields with their names. -/
def line (event : Event) : String :=
  event.level.text ++ " " ++ event.target ++ ": " ++ event.message ++
    String.join (event.fields.map fun field => " " ++ field.1 ++ "=" ++ fieldText field.2)

/-- The lines of the events that a filter shows. -/
def Filter.lines (filter : Filter) (events : Array Event) : List String :=
  (events.toList.filter filter.shows).map line

end Calculator.Log
