import Bindery.Enumeration

/-!
# Attributes with a fixed choice of values
-/

namespace Bindery

/-- Which way a line runs. -/
inductive LineType where
  | horizontal
  | vertical
deriving DecidableEq, Repr

/-- The name a line type is written by. -/
def LineType.name : LineType → String
  | horizontal => "Horizontal"
  | vertical => "Vertical"

instance : Enumeration LineType where
  values := [.horizontal, .vertical]
  name := LineType.name
  find_name value := by cases value <;> decide

/-- Into which neighbour an empty table cell is folded. -/
inductive CellMerge where
  | none
  | left
  | right
deriving DecidableEq, Repr

/-- The name a merge direction is written by. -/
def CellMerge.name : CellMerge → String
  | none => "None"
  | left => "Left"
  | right => "Right"

instance : Enumeration CellMerge where
  values := [.none, .left, .right]
  name := CellMerge.name
  find_name value := by cases value <;> decide

/-- Where content stands between the left and the right edge. -/
inductive HorizontalAlign where
  | left
  | center
  | right
deriving DecidableEq, Repr

/-- The name a horizontal alignment is written by. -/
def HorizontalAlign.name : HorizontalAlign → String
  | left => "Left"
  | center => "Center"
  | right => "Right"

instance : Enumeration HorizontalAlign where
  values := [.left, .center, .right]
  name := HorizontalAlign.name
  find_name value := by cases value <;> decide

/-- Where content stands between the upper and the lower edge. -/
inductive VerticalAlign where
  | top
  | middle
  | bottom
deriving DecidableEq, Repr

/-- The name a vertical alignment is written by. -/
def VerticalAlign.name : VerticalAlign → String
  | top => "Top"
  | middle => "Middle"
  | bottom => "Bottom"

instance : Enumeration VerticalAlign where
  values := [.top, .middle, .bottom]
  name := VerticalAlign.name
  find_name value := by cases value <;> decide

/-- How an image is fitted into its region. -/
inductive Scaling where
  | fitWidth
  | fitHeight
  | fitArea
  | resize
deriving DecidableEq, Repr

/-- The name a scaling is written by. -/
def Scaling.name : Scaling → String
  | fitWidth => "FitWidth"
  | fitHeight => "FitHeight"
  | fitArea => "FitArea"
  | resize => "Resize"

instance : Enumeration Scaling where
  values := [.fitWidth, .fitHeight, .fitArea, .resize]
  name := Scaling.name
  find_name value := by cases value <;> decide

/-- How much of the quality of an image is kept. -/
inductive Compression where
  | best
  | veryHigh
  | high
  | medium
  | low
  | veryLow
deriving DecidableEq, Repr

/-- The name a compression is written by. -/
def Compression.name : Compression → String
  | best => "Best"
  | veryHigh => "VeryHigh"
  | high => "High"
  | medium => "Medium"
  | low => "Low"
  | veryLow => "VeryLow"

instance : Enumeration Compression where
  values := [.best, .veryHigh, .high, .medium, .low, .veryLow]
  name := Compression.name
  find_name value := by cases value <;> decide

end Bindery
