/-!
# An example template

The template of an invoice, which shows a paragraph with a style, contents on a condition, and a
table whose first column joins equal slots.
-/

namespace Bindery

namespace CommandLine

/-- A line of the example.  To be legible, it is written with angle brackets for braces and single
quotes for double ones. -/
def exampleLine (line : String) : List Char :=
  line.toList.map fun c =>
    if c = '‹' then '\x7b' else if c = '›' then '\x7d' else if c = '\'' then '"' else c

/-- The lines of the example. -/
def exampleLines : List String :=
  ["‹",
   "  '$type': 'document',",
   "  'contents': [",
   "    ‹",
   "      '$type': 'paragraph',",
   "      'spans': [",
   "        ‹ '$type': 'span', 'value': 'Invoice ' ›,",
   "        ‹ '$type': 'span', 'access': 'number' ›",
   "      ],",
   "      '$styles': ‹ 'fontsize': ‹ 'value': 20.0 › ›",
   "    ›,",
   "    ‹",
   "      '$type': 'show',",
   "      'condition': 'paid',",
   "      'contents': [",
   "        ‹ '$type': 'paragraph', 'spans': [ ‹ '$type': 'span', 'value': 'PAID' › ] ›",
   "      ]",
   "    ›,",
   "    ‹",
   "      '$type': 'table',",
   "      'headers': [",
   "        ‹",
   "          '$type': 'tablerow',",
   "          'cells': [",
   "            ‹ '$type': 'tablecell', 'element': ‹ '$type': 'span', 'value': 'Group' › ›,",
   "            ‹ '$type': 'tablecell', 'element': ‹ '$type': 'span', 'value': 'Item' › ›,",
   "            ‹ '$type': 'tablecell', 'element': ‹ '$type': 'span', 'value': 'Amount' › ›",
   "          ]",
   "        ›",
   "      ],",
   "      'rows': [",
   "        ‹",
   "          '$type': 'tablerow',",
   "          'access': 'items',",
   "          'cells': [",
   "            ‹",
   "              '$type': 'tablecell',",
   "              'access': 'group',",
   "              'autorowspan': true,",
   "              'element': ‹ '$type': 'span' ›",
   "            ›,",
   "            ‹",
   "              '$type': 'tablecell',",
   "              'access': 'name',",
   "              'element': ‹ '$type': 'span', 'value': '' ›",
   "            ›,",
   "            ‹",
   "              '$type': 'tablecell',",
   "              'access': 'amount',",
   "              'element': ‹ '$type': 'span', 'format': '‹0:0.00›' ›",
   "            ›",
   "          ]",
   "        ›",
   "      ]",
   "    ›,",
   "    ‹",
   "      '$type': 'paragraph',",
   "      'spans': [ ‹ '$type': 'span', 'access': 'note', 'value': '' › ]",
   "    ›",
   "  ]",
   "›"]

/-- The text of the example, each line with its end. -/
def exampleTemplate : String :=
  String.ofList (exampleLines.flatMap fun line => exampleLine line ++ ['\n'])

end CommandLine

end Bindery
