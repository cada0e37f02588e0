/-!
# Sample queries

Queries that make a small fixture directory, each with the name of its file.
-/

namespace SqlOutline.Fixture

/-- The sample queries by file name. -/
def sampleQueries : List (String × String) :=
  [("case_expression.sql",
      "SELECT id, CASE WHEN score >= 50 THEN 'pass' ELSE 'fail' END AS result FROM exams\n"),
    ("insert_values.sql", "INSERT INTO users (id, name) VALUES (1, 'alice');\n"),
    ("select_basic.sql", "SELECT name, age FROM People WHERE age > 30\n"),
    ("select_star.sql", "SELECT * FROM users\n"),
    ("subselect_alias.sql",
      "SELECT p.name, COUNT(*) AS total\nFROM (SELECT name FROM People WHERE active = true) AS p\nGROUP BY p.name\nORDER BY total DESC\n")]

end SqlOutline.Fixture
