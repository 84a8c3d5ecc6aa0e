import QueryBench.Doc.Basic

/-!
# The schema of the financial database

What the model is told about the tables, the keys and the meaning of the columns.
-/
set_option autoImplicit false

namespace QueryBench.Schema

def known : Doc :=
  .record [
    ("financial", .record [
      ("description", .text "Czech banking system database with entities for clients, accounts, loans, and transaction history."),
      ("tables", .record [
        ("account", .list [.text "account_id", .text "district_id", .text "frequency", .text "date"]),
        ("card", .list [.text "card_id", .text "disp_id", .text "type", .text "issued"]),
        ("client", .list [
          .text "client_id", .text "gender", .text "birth_date", .text "district_id"]),
        ("disp", .list [.text "disp_id", .text "client_id", .text "account_id", .text "type"]),
        ("district", .list [
          .text "district_id", .text "A2", .text "A3", .text "A4", .text "A5", .text "A6",
          .text "A7", .text "A8", .text "A10", .text "A11", .text "A12", .text "A13",
          .text "A14", .text "A15", .text "A16"]),
        ("loan", .list [
          .text "loan_id", .text "account_id", .text "date", .text "amount", .text "duration",
          .text "payments", .text "status"]),
        ("order", .list [
          .text "order_id", .text "account_id", .text "bank_to", .text "account_to",
          .text "amount", .text "k_symbol"]),
        ("trans", .list [
          .text "trans_id", .text "account_id", .text "date", .text "type", .text "operation",
          .text "amount", .text "balance", .text "k_symbol"])]),
      ("foreign_keys", .list [
        .text "account.district_id = district.district_id", .text "card.disp_id = disp.disp_id",
        .text "client.district_id = district.district_id",
        .text "disp.client_id = client.client_id", .text "disp.account_id = account.account_id",
        .text "loan.account_id = account.account_id",
        .text "order.account_id = account.account_id",
        .text "trans.account_id = account.account_id"]),
      ("table_descriptions", .record [
        ("disp", .text "A bridge table connecting clients to accounts that defines the client's privileges and role (e.g., owner or authorized user) on that account."),
        ("trans", .text "The primary transaction ledger recording the full history of financial movements (credits, withdrawals, remittances) for accounts, capturing the operation type, amount, and the post-transaction balance"),
        ("order", .text "Registry of permanent payment orders (standing instructions) associated with accounts for recurring payments, specifying the recipient bank, account, and amount.")]),
      ("extra_informations", .list [
        .text "For this database districts also means location of branch",
        .text "Only OWNER eligible for loan"]),
      ("column_descriptions", .record [
        ("district.A2", .text "District / Branch Name"),
        ("district.A3", .text "Region"),
        ("district.A4", .text "Number of inhabitants"),
        ("district.A5", .text "Number of municipalities with inhabitants < 499"),
        ("district.A6", .text "Number of municipalities with inhabitants 500-1999"),
        ("district.A7", .text "Number of municipalities with inhabitants 2000-9999"),
        ("district.A8", .text "Number of municipalities with inhabitants > 10000"),
        ("district.A10", .text "Ratio of urban inhabitants"),
        ("district.A11", .text "Average salary"),
        ("district.A12", .text "unemployment rate on 1995"),
        ("district.A13", .text "unemployment rate on 1996"),
        ("district.A14", .text "Number of entrepreneurs per 1000 inhabitants"),
        ("district.A15", .text "no. of committed crimes on 1995"),
        ("district.A16", .text "no. of committed crimes on 1996"),
        ("order.k_symbol", .text "characterization of the payment, purpose of the payment"),
        ("trans.k_symbol", .text "characterization of the transaction"),
        ("account.frequency", .text "frequency of the account for payment (semantically means monthly issuance, issuance after transaction etc.)"),
        ("disp.type", .text "type of disposition, OWNER, USER, DISPONENT etc."),
        ("loan.duration", .text "Loan duration in months"),
        ("loan.payments", .text "Monthly installment amount associated with the loan"),
        ("loan.status", .text "Status of the loan repayment (semantically means Finished OK, Finished Unpaid, Running OK, Running Debt etc.)"),
        ("order.account_to", .text "The recipient's account number for the payment order"),
        ("order.bank_to", .text "The two-letter code identifying the recipient's bank"),
        ("order.amount", .text "The amount of money to be sent in the order"),
        ("account.date", .text "The date when the account was opened"),
        ("trans.date", .text "The date when the financial transaction occurred"),
        ("trans.type", .text "Direction of the transaction flow indicating if it is a Credit or Withdrawal"),
        ("trans.operation", .text "The method or mechanism used to execute the transaction (semantically means credit card, cash, bank transfer etc.)"),
        ("trans.bank", .text "The code of the partner bank involved in the transaction")])])]

end QueryBench.Schema
