import Transport.Describe
import Transport.Fingerprint
import Transport.Numeric
import Transport.Memory
/-!
# Fixed-width histograms

A histogram of `n = max bins 1` bins between `lower` and `upper` has the edges
`lower + (upper - lower) · i / n` for `i < n`, and `upper` as its last edge. A value `x`
falls in bin `i` when `lower ≤ x < upper`: the bin is first estimated from `x`'s fraction
of the range, then moved by one where rounding put it beside the edges that hold `x`.
A fill outside the range adds its weight to the underflow when `x` lies below the first
edge, and to the overflow otherwise (which takes `NaN`). A binning whose `n + 1` edges would
not fit in memory makes no histogram.
-/
namespace Transport

/-- The binning of a histogram. -/
structure HistogramSpec where
  lower : Float
  upper : Float
  bins : Nat
  deriving Inhabited

def HistogramSpec.describe (s : HistogramSpec) : String :=
  Describe.record "HistogramInput"
    [("lower", Describe.real s.lower), ("upper", Describe.real s.upper), ("bins", toString s.bins)]

/-- The histogram used for energy deposition unless a run says otherwise. -/
def HistogramSpec.standard : HistogramSpec := ⟨-700.0, 700.0, 1024⟩

/-- Bin edges, the weight in each bin, and the weight below and above the range. -/
structure Histogram where
  edges : Array Float
  values : Array Float
  underflow : Float
  overflow : Float
  deriving Inhabited

namespace Histogram

/-- The empty histogram of a binning; `none` when its edges would not fit in memory. -/
def new (s : HistogramSpec) : Option Histogram :=
  let bins := max s.bins 1
  let width := s.upper - s.lower
  if Layout.word.fits (bins + 1) then
    let edges := (List.range bins).map fun i => s.lower + width * i.toFloat / bins.toFloat
    some { edges := (edges ++ [s.upper]).toArray, values := Array.replicate bins 0.0,
           underflow := 0.0, overflow := 0.0 }
  else none

def numBins (h : Histogram) : Nat := h.values.size

/-- The bin holding `x`, if `x` is in range. -/
def bin (h : Histogram) (x : Float) : Option Nat :=
  let n := h.numBins
  let lower := h.edges.getD 0 0.0
  let upper := h.edges.getD n 0.0
  if !(lower ≤ x && x < upper) then none
  else
    let i := min (toIndex ((x - lower) / (upper - lower) * n.toFloat)) (n - 1)
    if x < h.edges.getD i 0.0 then some (i - 1)
    else if x ≥ h.edges.getD (i + 1) 0.0 then some (i + 1)
    else some i

/-- Adds `weight` at `x`. -/
def fill (h : Histogram) (x weight : Float) : Histogram :=
  match h.bin x with
  | some i => { h with values := h.values.modify i (· + weight) }
  | none =>
    if x < h.edges.getD 0 0.0 then { h with underflow := h.underflow + weight }
    else { h with overflow := h.overflow + weight }

/-- All the weight: the bins summed from `-0.0`, then the underflow and the overflow. -/
def total (h : Histogram) : Float :=
  sumFrom h.values.toList + h.underflow + h.overflow

def feed (h : Histogram) (f : Fingerprint) : Fingerprint :=
  ((f.computedList h.edges.toList).computedList h.values.toList).computed h.underflow
    |>.computed h.overflow

/-- The histogram as a structural description. -/
def describe (h : Histogram) : String :=
  Describe.record "Histogram"
    [("edges", Describe.list (h.edges.toList.map Describe.real)),
     ("values", Describe.list (h.values.toList.map Describe.real)),
     ("underflow", Describe.real h.underflow), ("overflow", Describe.real h.overflow)]

end Histogram

end Transport
