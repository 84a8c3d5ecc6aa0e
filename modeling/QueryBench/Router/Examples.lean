import QueryBench.Router

/-!
# Texts for training and testing the router

Main definitions: `Router.trainingExamples`, `Router.chatTests`, `Router.mixedTests`.
-/
set_option autoImplicit false

namespace QueryBench.Router

def chatExamples : List Text := Text.ofStrings [
    "Hello, how are you?", "Good morning!", "Tell me a joke.", "Who are you?", "Are you a robot?",
    "I'm feeling happy today.", "Thanks for your help.", "See you later.",
    "Can you help me with something else?", "Who created you?", "Nice to meet you.", "What's up?",
    "Have a great day.", "I am very tired.", "What is the meaning of life?", "Do you like pizza?",
    "What is the weather like?", "Can you sing a song?", "You are very smart.",
    "I don't understand.", "Please explain that again.", "I am bored.",
    "What is your favorite color?", "Good night.", "Talk to you later.", "That is funny.",
    "I need advice on life.", "Do you sleep?", "What time is it?", "Is it raining outside?",
    "My name is John.", "Do you have a family?", "I want to learn Python.", "This is amazing.",
    "You are helpful.", "What language do you speak?", "Can we be friends?",
    "I am just testing you.", "Write a poem for me.", "Do you know Siri?", "I had a bad day.",
    "Let's change the topic.", "Do you like sports?", "Where do you live?", "Goodbye.",
    "Hi there!", "Cool stuff.", "Explain quantum physics simply.", "I'm hungry.",
    "What date is it today?"]

def queryExamples : List Text := Text.ofStrings [
    "Show me the sales data for 2024.", "List all users who signed up yesterday.",
    "What is the total revenue for Q3?", "Find the email of the customer named John Doe.",
    "How many products are currently in stock?", "Get the latest report from the finance table.",
    "Select top 10 performing employees.", "What was the average order value last month?",
    "Retrieve the transaction history for ID 554.", "Count the number of active subscriptions.",
    "Who bought the most items?", "Show me the inventory status.",
    "Filter results by city equals New York.", "Delete the user with ID 99.",
    "Update the address for client X.", "Insert a new record into the logs.",
    "Which product has the lowest stock?", "List employees hired before 2020.",
    "Calculate the total profit margin.", "Search for invoices created today.",
    "Display the list of all admins.", "How many tickets are open in Jira?",
    "Get me the phone number of the CEO.", "Sort the customers by spending amount.",
    "Check if item 123 is available.", "What is the status of order #4455?",
    "Give me a list of pending payments.", "Total count of visitors this week.",
    "Find users with age greater than 30.", "Show details for product category Electronics.",
    "Export the monthly sales report.", "Who is the manager of the IT department?",
    "When was the last login for user admin?", "Count all rows in the feedback table.",
    "What is the sum of all expenses?", "List all cancelled orders.",
    "Find the most recent transaction.", "Group sales by region.",
    "What is the maximum salary in the company?", "Show me the database schema.",
    "Are there any duplicate entries?", "Fetch the data for the last 7 days.",
    "Who has the highest bonus?", "List all suppliers in Germany.",
    "What is the churn rate for this month?", "Show me the growth percentage.",
    "Select distinct names from the list.", "How many returns did we process?",
    "Find the order linked to this tracking number.", "Get the profile picture URL for user 5."]

def trainingExamples : List (Text × Intent) :=
  chatExamples.map (·, .chat) ++ queryExamples.map (·, .query)

def chatTests : List Text :=
  ["How's the weather today?", "Can you tell me a story?", "I'm looking for a gift idea.",
    "What is your favorite movie?", "Tell me about history.", "Do you know any poems?",
    "I need a workout routine.", "How do I make pancakes?", "Translate this to French.",
    "Give me some motivation.", "What is the capital of Italy?", "Who won the World Cup?",
    "Tell me a science fact.", "I feel lonely.", "What are you doing?",
    "How does a computer work?", "Recommend a book.", "Good afternoon!",
    "Where is the nearest park?", "Can humans breathe on Mars?"]

def mixedTests : List (Text × Intent) :=
  [("Hey, what's up?", .chat),
    ("Select * from users where age > 25", .query),
    ("Show me the inventory list", .query),
    ("I am really tired today", .chat),
    ("How many items did we sell yesterday?", .query),
    ("Tell me a story about space", .chat)]

end QueryBench.Router
