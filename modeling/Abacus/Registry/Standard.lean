import Abacus.Operation.Catalogue
import Abacus.Registry

/-! The standard registry: sine, cosine, logarithm and exponential, the five operations of
arithmetic, and the two signs. -/

namespace Abacus

private theorem standard_names : ∀ name ∈ [['S', 'I', 'N'], ['C', 'O', 'S'], ['L', 'N'],
    ['E', 'X', 'P']], Text.isFunctionName name = true := by
  decide +kernel

private theorem standard_symbols : ∀ symbol ∈ [['+'], ['-'], ['*'], ['/'], ['^'], ['+'], ['-']],
    Text.isOperatorSymbol symbol = true := by
  decide +kernel

def Registry.standard : Registry where
  functions := {
    entries := [
      (['S', 'I', 'N'], Unary.sine),
      (['C', 'O', 'S'], Unary.cosine),
      (['L', 'N'], Unary.logarithm),
      (['E', 'X', 'P'], Unary.exponential)]
    distinct := by decide }
  binary := {
    entries := [
      (['+'], Binary.sum),
      (['-'], Binary.difference),
      (['*'], Binary.product),
      (['/'], Binary.quotient),
      (['^'], Binary.power)]
    distinct := by decide }
  unary := {
    entries := [(['+'], Unary.identity), (['-'], Unary.negation)]
    distinct := by decide }
  overrides := .empty
  names_valid := standard_names
  symbols_valid := standard_symbols
  overrides_known := by simp [Table.keys, Table.empty]

end Abacus
