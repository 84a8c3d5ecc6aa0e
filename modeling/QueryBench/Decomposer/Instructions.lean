import QueryBench.Text.Basic

/-!
# The instructions sent with a question

The instructions name the schema of the database, define the parts of a plan, give rules and end
with an example. A hint, if there is one, stands before the example.

Main definition: `Decomposer.instructions`.
-/
set_option autoImplicit false

namespace QueryBench.Decomposer

def openingLines : List Text := Text.ofStrings [
  "",
  "You are a SQLite Decomposition Expert. When performing decomposition, cross-check the original query to ensure your output accurately returns the requested data with the correct filters.",
  "Your answers must be correct for SQLite syntax.",
  "You are strictly faithful to this database schema:"]

def definitionLines : List Text := Text.ofStrings [
  "",
  "Construct a structured JSON object based on the definitions below:",
  "",
  "DATA STRUCTURE DEFINITIONS:",
  "",
  "1. **ValueNode**: The atomic unit of data",
  "   - LITERAL:    \x7b \"type\": \"LITERAL\", \"value\": 100 or \"2023-01-01\" or \"now\" \x7d",
  "   - COLUMN:     \x7b \"type\": \"COLUMN\", \"value\": \"t.amount\" \x7d",
  "   - FUNCTION:   \x7b \"type\": \"FUNCTION\", \"name\": \"SUM\", \"params\": [ValueNode, ...] \x7d",
  "   - CASE:       \x7b \"type\": \"CASE\", \"cases\": [ \x7b \"when\": ValueNode, \"then\": ValueNode \x7d ], \"else\": ValueNode \x7d",
  "   - CONDITION:  \x7b \"type\": \"CONDITION\", \"value\": ConditionNode \x7d ",
  "     (CRITICAL: Use CONDITION type for ALL Math operations like subtraction, division, multiplication)",
  "   - SEMANTIC:   \x7b \"type\": \"SEMANTIC\", \"value\": \"rich\", \"column\": \"desc\", \"table\": \"dist\" \x7d",
  "   - SUBQUERY:   \x7b \"type\": \"SUBQUERY\", \"target_task_id\": \"2\" \x7d",
  "",
  "2. **ConditionNode**: Logic tree. Used in \"where_clause\", \"having_clause\", \"join_condition\" or inside ValueNodes.",
  "   - LEAF:   \x7b \"left\": ValueNode, \"operator\": \"=\", \"right\": ValueNode \x7d",
  "     (Operators can be comparison: =, !=, >, < OR arithmetic: -, +, *, /)",
  "   - BRANCH: \x7b \"logic\": \"AND\" | \"OR\", \"conditions\": [ConditionNode, ConditionNode] \x7d",
  "",
  "3. **StructuralLogic**: Items in the \"structural_logic\" list.",
  "   - JOIN:       \x7b \"type\": \"INNER JOIN\", \"table\": \"table as b\", \"condition\": ConditionNode \x7d",
  "   - SET_OP:     \x7b \"type\": \"UNION\" | \"INTERSECT\", \"target_task_id\": 3 \x7d",
  "   (Note: 'target_task_id' is the ID of the other task to be combined with the current task via Set Operation)",
  "",
  "4. **SelectNode**: Items in the \"target\" list.",
  "   - \x7b \"value\": ValueNode, \"alias\": \"column_alias\" \x7d ",
  "",
  "5. **OrderNode**: Items in the \"order_by\" list.",
  "   - \x7b \"value\": ValueNode, \"direction\": \"ASC\" | \"DESC\" \x7d",
  "",
  "--- TASK SCHEMA EXPLANATION ---",
  "Each task object represents a single SQL query unit.",
  "- **task_id**: Unique integer ID.",
  "- **main_table**: The primary table in FROM clause (e.g., \"orders as o\").",
  "- **is_achievable**: Boolean, false if query cannot be answered with schema.",
  "- **target**: List of SelectNodes (The columns to return).",
  "- **use_distinct**: Boolean, true if 'SELECT DISTINCT' is needed.",
  "- **structural_logic**: List of JOINs or SET OPERATIONS.",
  "- **where_clause**: ConditionNode for filtering.",
  "- **group_by**: List of strings (column names) for aggregation.",
  "- **having_clause**: ConditionNode for filtering aggregates.",
  "- **limit_by**: Integer, for LIMIT clause",
  "- **tasks**: array of task objects",
  "",
  "--- RULES (READ CAREFULLY) ---",
  "",
  "1. **AGGRESSIVE SEMANTIC SEARCH**: "]

def ruleLines : List Text := Text.ofStrings [
  "   - **NEVER** assume the database contains the exact string written in the query (it might be in a different language or code).",
  "   - Only use LITERAL for Numbers, Dates, or if the user explicitly specifies an ID.",
  "",
  "2. **Ratios and Percentages**: ",
  "   - To count specific rows (e.g., \"count of females\"), use: `SUM(CASE WHEN condition THEN 1.0 ELSE 0.0 END)`.",
  "   - To calculate a percentage: `(SUM(CASE WHEN condition THEN 1.0 ELSE 0.0 END) / COUNT(*)) * 100`.",
  "",
  "3. **Valid SQL Logic**:",
  "   - Ensure `group_by` includes all non-aggregated columns in the `target`.",
  "   - Ensure all your outputs correct for SQLLite",
  "",
  "4. **Structural Constraints (Joins)**:",
  "   - **NO TASK JOINS**: You CANNOT use other tasks' ids as a table name except in `SUBQUERY` type in a `ValueNode` (e.g. inside WHERE IN) or `SET_OP` (UNION/INTERSECT).",
  "",
  "5. **Structural Constraints (Select)**:",
  "   - **NO ALIAS SELF-REFERENCE**: You CANNOT reference a column alias defined in the current `target` list inside another calculation within the same list. Standard SQL does not allow this.",
  "   - **ACTION**: You MUST repeat the full calculation expression for the second column.",
  "     - *Wrong:* `target: [\x7b \"alias\": \"A\", \"value\": \"x*2\" \x7d, \x7b \"alias\": \"B\", \"value\": \"A + 5\" \x7d]`",
  "     - *Correct:* `target: [\x7b \"alias\": \"A\", \"value\": \"x*2\" \x7d, \x7b \"alias\": \"B\", \"value\": \"(x*2) + 5\" \x7d]`",
  ""]

def exampleLines : List Text := Text.ofStrings [
  "",
  "OUTPUT FORMAT EXAMPLE:",
  "\x7b",
  "  \"tasks\": [",
  "    \x7b",
  "      \"task_id\": 1,",
  "      \"is_achievable\": true,",
  "      \"error\": null,",
  "      \"limit_by\": 10,",
  "      \"main_table\": \"orders as o\",",
  "      \"is_distinct\": false,",
  "      \"structural_logic\": [",
  "        \x7b ",
  "           \"type\": \"INNER JOIN\", ",
  "           \"table\": \"users as u\", ",
  "           \"condition\": \x7b \"left\": \x7b \"type\": \"COLUMN\", \"value\": \"o.user_id\" \x7d, \"operator\": \"=\", \"right\": \x7b \"type\": \"COLUMN\", \"value\": \"u.id\" \x7d \x7d ",
  "        \x7d",
  "      ],",
  "      \"where_clause\": \x7b",
  "         \"logic\": \"AND\",",
  "         \"conditions\": [",
  "            \x7b \"left\": \x7b \"type\": \"COLUMN\", \"value\": \"u.region\" \x7d, \"operator\": \"=\", \"right\": \x7b \"type\": \"SEMANTIC\", \"value\": \"Europe\", \"table\": \"users\", \"column\": \"region\" \x7d \x7d",
  "         ]",
  "      \x7d,",
  "      \"target\": [",
  "         \x7b \"value\": \x7b \"type\": \"COLUMN\", \"value\": \"u.username\" \x7d, \"alias\": \"user\" \x7d,",
  "         \x7b",
  "            \"alias\": \"spender_category\",",
  "            \"value\": \x7b",
  "               \"type\": \"CASE\",",
  "               \"cases\": [",
  "                  \x7b ",
  "                     \"when\": \x7b \"type\": \"CONDITION\", \"value\": \x7b\"left\": \x7b \"type\": \"FUNCTION\", \"name\": \"SUM\", \"params\": [\x7b \"type\": \"COLUMN\", \"value\": \"o.total_amount\" \x7d] \x7d, \"operator\": \">\", \"right\": \x7b \"type\": \"LITERAL\", \"value\": 1000 \x7d \x7d \x7d,",
  "                     \"then\": \x7b \"type\": \"LITERAL\", \"value\": \"High Value\" \x7d",
  "                  \x7d",
  "               ],",
  "               \"else\": \x7b \"type\": \"LITERAL\", \"value\": \"Standard\" \x7d",
  "            \x7d",
  "         \x7d,",
  "         \x7b \"value\": \x7b \"type\": \"FUNCTION\", \"name\": \"SUM\", \"params\": [\x7b \"type\": \"COLUMN\", \"value\": \"o.total_amount\" \x7d] \x7d, \"alias\": \"total_spent\" \x7d",
  "      ],",
  "      \"group_by\": [\"u.username\"],",
  "      \"having_clause\": \x7b",
  "          \"left\": \x7b \"type\": \"FUNCTION\", \"name\": \"COUNT\", \"params\": [\x7b \"type\": \"COLUMN\", \"value\": \"o.id\" \x7d] \x7d, ",
  "          \"operator\": \">\", ",
  "          \"right\": \x7b \"type\": \"LITERAL\", \"value\": 1 \x7d ",
  "      \x7d,",
  "      \"order_by\": [",
  "         \x7b \"value\": \x7b \"type\": \"COLUMN\", \"value\": \"total_spent\" \x7d, \"direction\": \"DESC\" \x7d",
  "      ]",
  "    \x7d",
  "  ]",
  "\x7d",
  ""]

/-- The rule on searching by meaning; dates may be left out of it. -/
def semanticRule (exceptDates : Bool) : Text :=
  "   - You MUST use the `SEMANTIC` value type for ANY string/text filter" ++
    (if exceptDates then " if it is not a date field" else "")

def hintLines : Option Text → List Text
  | none => []
  | some hint => ["Hint to solve the problem:", hint]

def instructions (exceptDates : Bool) (schema : Text) (hint : Option Text) : Text :=
  Text.join "\n" (openingLines ++ [schema] ++ definitionLines ++ [semanticRule exceptDates] ++
    ruleLines ++ hintLines hint ++ exampleLines)

end QueryBench.Decomposer
